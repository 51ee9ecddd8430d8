import ReactiveProps.Analysis.FileSession
import ReactiveProps.Proofs.Alignment
import ReactiveProps.Proofs.FileRuns
import ReactiveProps.Proofs.Sessions
import ReactiveProps.Proofs.SourceFiles

/-!
# Analyses of directories

The modules of a directory are those of its source files, in the order of their paths. Each of them
is what the analysis of its file alone gives, although one analyzer goes through all the files.
-/
namespace ReactiveProps.Analysis

open Files Property Typing

section Files

variable {bench : Workbench} {fs : FileSystem}

theorem result_analyzeFiles_eq_ok_iff {paths : List String} {modules : List Module} :
    (analyzeFiles bench fs paths).result = .ok modules ↔
      List.Forall₂ (fun path module => (analyzeFile bench fs path).result = .ok module)
        paths modules := by
  refine ⟨forall₂_of_analyzeFiles, fun each => ?_⟩
  induction each with
  | nil => rfl
  | cons returned _ ih =>
    rw [analyzeFiles_of_ok returned, ih]
    rfl

/-- The error raised is that of the first file that fails. -/
theorem result_analyzeFiles_eq_error_iff {paths : List String} {error : AnalysisError} :
    (analyzeFiles bench fs paths).result = .error error ↔
      FirstFailure (fun path error => (analyzeFile bench fs path).result = .error error)
        paths error := by
  induction paths with
  | nil => exact iff_of_false nofun not_firstFailure_nil
  | cons path rest ih =>
    rw [firstFailure_cons_iff, ← ih]
    cases ends : (analyzeFile bench fs path).result with
    | error other =>
      rw [analyzeFiles_of_error ends]
      simp
    | ok module =>
      rw [analyzeFiles_of_ok ends]
      cases (analyzeFiles bench fs rest).result <;> simp [Except.map]

end Files

namespace Session

variable {parser : Parser} {session : Session} (fs : FileSystem)

def bench (session : Session) (parser : Parser) : Workbench :=
  ⟨parser, session.analyzer, session.configuration⟩

theorem bench_analyze (job : Job) :
    (session.analyze parser job).2.bench parser = session.bench parser := by
  obtain ⟨configuration, analyzer⟩ := configuration_analyze parser session job
  rw [bench, configuration, analyzer, bench]

/-- Nothing that a session keeps from one file to the next makes a difference. -/
theorem Sound.analyzeFile (sound : session.Sound parser) (path : String) :
    (session.analyzeFile parser fs path).1 =
        Analysis.analyzeFile (session.bench parser) fs path ∧
      (session.analyzeFile parser fs path).2.Sound parser ∧
      (session.analyzeFile parser fs path).2.bench parser = session.bench parser := by
  unfold Session.analyzeFile Analysis.analyzeFile
  cases fs.isFile path with
  | false => exact ⟨rfl, sound, rfl⟩
  | true =>
    cases fs.load path with
    | error error => exact ⟨rfl, sound, rfl⟩
    | ok text =>
      let job : Job := ⟨.ofString text, some path, none⟩
      obtain ⟨given, kept⟩ := sound.analyze job
      exact ⟨given, kept, bench_analyze job⟩

theorem Sound.analyzeFiles (sound : session.Sound parser) (paths : List String) :
    (session.analyzeFiles parser fs paths).1 =
      Analysis.analyzeFiles (session.bench parser) fs paths := by
  induction paths generalizing session with
  | nil => rfl
  | cons path rest ih =>
    obtain ⟨given, kept, same⟩ := sound.analyzeFile fs path
    have others := ih kept
    rw [same] at others
    cases ends : (session.analyzeFile parser fs path).1.result <;>
      simp only [Session.analyzeFiles, Analysis.analyzeFiles, ← given, ends, others]

theorem Sound.analyzeDirectory (sound : session.Sound parser) (root : String)
    (recursive : Bool) :
    (session.analyzeDirectory parser fs root recursive).1 =
      Analysis.analyzeDirectory (session.bench parser) fs root recursive := by
  unfold Session.analyzeDirectory Analysis.analyzeDirectory
  cases given : (session.configuration.analysis "file_extensions").members? with
  | error message => simp only [bench, given]
  | ok extensions =>
    have files := sound.analyzeFiles fs (fs.search extensions root recursive).sources
    simp only [bench, given] at files ⊢
    rw [files]

end Session

section Directory

variable {bench : Workbench} {fs : FileSystem} {root : String} {folder? : Option Location}
  {extensions : List String} {recursive : Bool}

theorem result_analyzeDirectory (found : fs.root? root = .ok folder?)
    (searchable : fs.Searchable root recursive)
    (configured : (bench.configuration.analysis "file_extensions").members? = .ok extensions) :
    (analyzeDirectory bench fs root recursive).result =
      (analyzeFiles bench fs
        ((fs.selection extensions root folder? recursive).map (listedPath root))).result := by
  simp only [analyzeDirectory, configured, FileSystem.search_eq found searchable, afterSearch]

theorem result_analyzeDirectory_of_unreachable {error : FileError}
    (lost : fs.root? root = .error error)
    (configured : (bench.configuration.analysis "file_extensions").members? = .ok extensions) :
    (analyzeDirectory bench fs root recursive).result =
      .error (.unreachable .tooLong (tidyPath root)) := by
  simp only [analyzeDirectory, configured, FileSystem.search, lost, afterSearch, analyzeFiles,
    Except.bind]

theorem result_analyzeDirectory_of_unlisted {message : String}
    (unlisted : (bench.configuration.analysis "file_extensions").members? = .error message) :
    (analyzeDirectory bench fs root recursive).result = .error (.badSetting message) := by
  unfold analyzeDirectory
  rw [unlisted]

end Directory

/-- The analysis of a directory returns one module for each selected file, in the order of their
paths, and the module is what the analysis of that file alone returns. If files fail, the first of
them does. Without the folders below, the directory has some of the same modules. What an analyzer
has analyzed before makes no difference. -/
theorem directory_has_modules_of_selection (parser : Parser) (steps : List Step)
    {fs : FileSystem} (tree : fs.IsTree) {root : String} {folder? : Option Location}
    (found : fs.root? root = .ok folder?) (searchable : fs.Searchable root true)
    (recursive : Bool) {extensions : List String}
    (configured : (((Session.start .default).after parser steps).configuration.analysis
      "file_extensions").members? = .ok extensions) :
    let session := (Session.start .default).after parser steps
    let bench := session.bench parser
    let alone := fun file => (analyzeFile bench fs (listedPath root file)).result
    let answer := fun recursive => (analyzeDirectory bench fs root recursive).result
    ∃ files : List Location,
      (∀ file, file ∈ files ↔ fs.Selected extensions root folder? recursive file) ∧
      (files.map (pathParts root ++ ·)).Pairwise (· < ·) ∧
      (∀ file ∈ files, ∃ folder, folder? = some folder ∧
        fs.locate (listedPath root file) = .ok (.file (folder ++ file))) ∧
      (∀ modules, answer recursive = .ok modules ↔
        List.Forall₂ (fun file module => alone file = .ok module) files modules) ∧
      (∀ modules, answer recursive = .ok modules →
        modules.map (·.path) = files.map fun file => some (listedPath root file)) ∧
      (∀ error, answer recursive = .error error ↔
        FirstFailure (fun file error => alone file = .error error) files error) ∧
      (∀ modules, answer true = .ok modules →
        ∃ direct, answer false = .ok direct ∧ direct.Sublist modules) ∧
      (∀ path, (session.analyzeFile parser fs path).1 = analyzeFile bench fs path) ∧
      (session.analyzeDirectory parser fs root recursive).1 =
        analyzeDirectory bench fs root recursive := by
  intro session bench alone answer
  have sound : session.Sound parser := (Session.remembers_after parser steps).sound
  have answer_eq (recursive : Bool) : answer recursive =
      (analyzeFiles bench fs
        ((fs.selection extensions root folder? recursive).map (listedPath root))).result :=
    result_analyzeDirectory found searchable.direct configured
  have returned (recursive : Bool) (modules : List Module) : answer recursive = .ok modules ↔
      List.Forall₂ (fun file module => alone file = .ok module)
        (fs.selection extensions root folder? recursive) modules := by
    rw [answer_eq, result_analyzeFiles_eq_ok_iff, List.forall₂_map_left_iff]
  refine ⟨fs.selection extensions root folder? recursive,
    fun file => tree.mem_selection found searchable.direct,
    FileSystem.pairwise_selection, ?_, returned recursive, ?_, ?_, ?_, ?_, ?_⟩
  · intro file listed
    have selected := (tree.mem_selection found searchable.direct).mp listed
    obtain ⟨folder, rfl, inside⟩ := selected.below
    exact ⟨folder, rfl, tree.locate_file found selected.filled inside searchable⟩
  · intro modules ends
    refine (map_eq_of_forall₂ ((returned recursive modules).mp ends) ?_).symm
    exact fun file module given => (path_of_analyzeFile given).symm
  · intro error
    rw [answer_eq, result_analyzeFiles_eq_error_iff, firstFailure_map_iff]
  · intro modules ends
    obtain ⟨direct, matched, fewer⟩ := exists_of_sublist ((returned true modules).mp ends)
      (tree.selection_sublist found searchable)
    exact ⟨direct, (returned false direct).mpr matched, fewer⟩
  · exact fun path => (sound.analyzeFile fs path).1
  · exact sound.analyzeDirectory fs root recursive

/-- A folder with sources, a declaration file, a file of another kind and a vendored one. -/
def mixedFolder : FileSystem where
  files := .ofPairs [
    (["tmp", "app", "notes.txt"], .empty),
    (["tmp", "app", "nested", "types.d.ts"], .empty),
    (["tmp", "app", "nested", "b.js"], .empty),
    (["tmp", "app", "node_modules", "c.ts"], .empty),
    (["tmp", "app", "a.ts"], .empty)]
  folders := []
  workingFolder := ["tmp", "app"]

def emptyParser : Parser := fun _ _ => ⟨⟨0, .other "program", true, none, ⟨0, 0⟩, []⟩, false⟩

def defaultExtensions : List String := [".ts", ".tsx", ".js", ".jsx", ".mjs"]

def mixedSources : List Location := [["a.ts"], ["nested", "b.js"]]

theorem selected_mixedFolder_iff {root : String} (clean : "node_modules" ∉ pathParts root)
    (file : Location) :
    mixedFolder.Selected defaultExtensions root (some ["tmp", "app"]) true file ↔
      file ∈ mixedSources := by
  have keys : mixedFolder.files.keys = [["tmp", "app", "notes.txt"],
      ["tmp", "app", "nested", "types.d.ts"], ["tmp", "app", "nested", "b.js"],
      ["tmp", "app", "node_modules", "c.ts"], ["tmp", "app", "a.ts"]] := by decide +kernel
  rw [mixedSources, List.mem_pair]
  constructor
  · intro selected
    obtain ⟨folder, ⟨⟩, listed⟩ := selected.below
    rw [keys] at listed
    simp only [List.cons_append, List.nil_append, List.mem_cons, List.cons.injEq, true_and,
      List.not_mem_nil, or_false] at listed
    rcases listed with rfl | rfl | rfl | rfl | rfl
    · have extension : Text.lowercase (suffix "notes.txt") ∈ defaultExtensions :=
        selected.extension
      exact absurd extension (by decide +kernel)
    · have notDeclaration : "types.d.ts".endsWith ".d.ts" = false := selected.notDeclaration
      exact absurd notDeclaration (by decide +kernel)
    · exact .inr rfl
    · exact absurd (List.mem_append_right _ List.mem_cons_self) selected.notVendored
    · exact .inl rfl
  · have apart {file : Location} (plain : "node_modules" ∉ file) :
        "node_modules" ∉ pathParts root ++ file := by
      rw [List.mem_append, not_or]
      exact ⟨clean, plain⟩
    rintro (rfl | rfl) <;>
      exact ⟨⟨_, rfl, by rw [keys]; decide⟩, by decide, nofun, by decide +kernel,
        by decide +kernel, apart (by decide)⟩

theorem root?_mixedFolder {root : String}
    (reached : (mixedFolder.root? root).toOption = some (some ["tmp", "app"])) :
    mixedFolder.root? root = .ok (some ["tmp", "app"]) :=
  toOption_eq_some_iff.mp reached

/-- The folder has the same two modules from the topmost folder down and from the folder above. -/
theorem directory_has_modules_of_selection_mixedFolder :
    let bench := (Session.start .default).bench emptyParser
    let answer := fun root => (analyzeDirectory bench mixedFolder root true).result
    mixedFolder.IsTree ∧ mixedFolder.Searchable "/tmp//app" true ∧
      mixedFolder.Searchable "../app/" true ∧
      (∃ modules, answer "/tmp//app" = .ok modules ∧
        modules.map (·.path) = [some "/tmp/app/a.ts", some "/tmp/app/nested/b.js"]) ∧
      ∃ modules, answer "../app/" = .ok modules ∧
        modules.map (·.path) = [some "../app/a.ts", some "../app/nested/b.js"] := by
  intro bench answer
  have tree : mixedFolder.IsTree := by decide +kernel
  have configured : (((Session.start .default).after emptyParser []).configuration.analysis
      "file_extensions").members? = .ok defaultExtensions := rfl
  have run {root : String} (found : mixedFolder.root? root = .ok (some ["tmp", "app"]))
      (searchable : mixedFolder.Searchable root true) (clean : "node_modules" ∉ pathParts root)
      (each : ∀ file ∈ mixedSources,
        (analyzeFile bench mixedFolder (listedPath root file)).result.toOption.isSome = true) :
      ∃ modules, answer root = .ok modules ∧
        modules.map (·.path) = mixedSources.map fun file => some (listedPath root file) := by
    obtain ⟨files, selected, ordered, -, returned, paths, -⟩ :=
      directory_has_modules_of_selection emptyParser [] tree found searchable true configured
    have sorted : (mixedSources.map (pathParts root ++ ·)).SortedLT :=
      (List.pairwise_pair.mpr (List.Lex.append_left _ (by decide +kernel) _)).sortedLT
    have same : files.map (pathParts root ++ ·) = mixedSources.map (pathParts root ++ ·) := by
      refine ordered.sortedLT.eq_of_mem_iff sorted fun path => ?_
      simp only [List.mem_map, selected, selected_mixedFolder_iff clean]
    obtain rfl : files = mixedSources :=
      List.map_injective_iff.mpr (List.append_right_injective _) same
    obtain ⟨first, one⟩ := Option.isSome_iff_exists.mp (each ["a.ts"] (by decide))
    obtain ⟨second, two⟩ := Option.isSome_iff_exists.mp (each ["nested", "b.js"] (by decide))
    have ends := (returned [first, second]).mpr
      (.cons (toOption_eq_some_iff.mp one) (.cons (toOption_eq_some_iff.mp two) .nil))
    exact ⟨[first, second], ends, paths _ ends⟩
  have top : mixedFolder.root? "/tmp//app" = .ok (some ["tmp", "app"]) :=
    root?_mixedFolder (by decide +kernel)
  have above : mixedFolder.root? "../app/" = .ok (some ["tmp", "app"]) :=
    root?_mixedFolder (by decide +kernel)
  have topSearchable : mixedFolder.Searchable "/tmp//app" true :=
    FileSystem.searchable_of_entriesBelow top (by decide +kernel)
  have aboveSearchable : mixedFolder.Searchable "../app/" true :=
    FileSystem.searchable_of_entriesBelow above (by decide +kernel)
  obtain ⟨modules, ends, paths⟩ := run top topSearchable (by decide +kernel) (by decide +kernel)
  obtain ⟨others, endsToo, pathsToo⟩ :=
    run above aboveSearchable (by decide +kernel) (by decide +kernel)
  refine ⟨tree, topSearchable, aboveSearchable, ⟨modules, ends, paths.trans ?_⟩,
    others, endsToo, pathsToo.trans ?_⟩ <;> decide +kernel

/-! ### Searches that end early -/

/-- The names that lead into a folder and back, so many times, and into it at last. -/
def detour (folder : String) : Nat → List String
  | 0 => [folder]
  | times + 1 => folder :: ".." :: detour folder times

section Detour

variable {fs : FileSystem} {folder : String}

theorem detour_ne_nil (times : Nat) : detour folder times ≠ [] := by
  cases times <;> exact List.cons_ne_nil _ _

theorem eq_of_mem_detour {times : Nat} {name : String} (listed : name ∈ detour folder times) :
    name = folder ∨ name = ".." := by
  induction times with
  | zero => exact .inl (List.mem_singleton.mp listed)
  | succ times ih =>
    rcases List.mem_cons.mp listed with same | listed
    · exact .inl same
    · rcases List.mem_cons.mp listed with same | later
      · exact .inr same
      · exact ih later

theorem size_detour (times : Nat) : ("/".intercalate (detour folder times)).utf8ByteSize =
    times * (folder.utf8ByteSize + 4) + folder.utf8ByteSize := by
  induction times with
  | zero => simp [detour]
  | succ times ih =>
    have up : "..".utf8ByteSize = 2 := by decide
    have slash : "/".utf8ByteSize = 1 := by decide
    rw [detour, String.intercalate_cons_cons,
      String.intercalate_cons_of_ne_nil (detour_ne_nil times)]
    simp only [String.utf8ByteSize_append, ih, up, slash, Nat.add_mul]
    omega

variable (isName : IsName folder)

include isName

theorem isName_or_up_of_mem_detour {times : Nat} {name : String}
    (listed : name ∈ detour folder times) :
    IsPart name ∧ name ≠ "." ∧ Char.ofNat 0 ∉ name.toList := by
  rcases eq_of_mem_detour listed with rfl | rfl
  · exact ⟨isName.part, isName.notSame, isName.noNull⟩
  · exact ⟨⟨by decide, by decide⟩, by decide, by decide⟩

theorem pathParts_detour (times : Nat) :
    pathParts ("/".intercalate (detour folder times)) = detour folder times := by
  have each {name : String} (listed : name ∈ detour folder times) :=
    isName_or_up_of_mem_detour isName listed
  rw [pathParts, components_intercalate (detour_ne_nil times) fun _ listed => (each listed).1.plain,
    List.filter_eq_self]
  intro name listed
  simpa using ⟨(each listed).1.filled, (each listed).2.1⟩

theorem isAbsolute_detour (times : Nat) :
    isAbsolute ("/".intercalate (detour folder times)) = false :=
  @isAbsolute_listedPath "" _ fun _ listed => (isName_or_up_of_mem_detour isName listed).1

theorem follow_detour {current : Location} (isFolder : fs.isFolderAt (current ++ [folder]) = true)
    (times : Nat) :
    fs.follow current (detour folder times) = .ok (.folder (current ++ [folder])) := by
  have leads := not_or.mpr ⟨isName.part.filled, isName.notSame⟩
  have short := Nat.not_lt.mpr isName.short
  induction times with
  | zero =>
    rw [detour, FileSystem.follow_down leads isName.notParent short isFolder, FileSystem.follow]
  | succ times ih =>
    rw [detour, FileSystem.follow_down leads isName.notParent short isFolder, FileSystem.follow_up,
      List.dropLast_concat, ih]

theorem noNull_detour (times : Nat) :
    Char.ofNat 0 ∉ ("/".intercalate (detour folder times)).toList := by
  rw [mem_intercalate_iff (by decide)]
  rintro ⟨name, listed, null⟩
  exact (isName_or_up_of_mem_detour isName listed).2.2 null

theorem root?_detour (isFolder : fs.isFolderAt (fs.workingFolder ++ [folder]) = true) {times : Nat}
    (short : times * (folder.utf8ByteSize + 4) + folder.utf8ByteSize ≤ longestPath) :
    fs.root? ("/".intercalate (detour folder times)) =
      .ok (some (fs.workingFolder ++ [folder])) := by
  have fine : pathError? ("/".intercalate (detour folder times)) = none :=
    pathError?_eq_none_iff.mpr ⟨noNull_detour isName times, (size_detour times).trans_le short⟩
  have here : startOf fs.workingFolder ("/".intercalate (detour folder times)) =
      fs.workingFolder := by rw [startOf, isAbsolute_detour isName, if_neg Bool.false_ne_true]
  rw [FileSystem.root?, FileSystem.locate_tidyPath (pathError?_tidyPath fine), here,
    pathParts_detour isName, follow_detour isName isFolder]

theorem isTooLong_detour {times : Nat} {name : String} (noNull : Char.ofNat 0 ∉ name.toList)
    (long : longestPath < times * (folder.utf8ByteSize + 4) + folder.utf8ByteSize +
      (1 + name.utf8ByteSize)) :
    fs.isTooLong (listedPath ("/".intercalate (detour folder times)) [name]) = true := by
  have whole : listedPath ("/".intercalate (detour folder times)) [name] =
      "/".intercalate (detour folder times) ++ "/" ++ name := by
    rcases anchor_cases ("/".intercalate (detour folder times)) with ⟨none, -⟩ | ⟨-, absolute⟩
    · rw [listedPath, none, String.empty_append, pathParts_detour isName,
        intercalate_concat (detour_ne_nil times)]
    · exact absurd ((isAbsolute_detour isName times).symm.trans absolute) Bool.false_ne_true
  have clean :
      Char.ofNat 0 ∉ (listedPath ("/".intercalate (detour folder times)) [name]).toList := by
    rw [whole, String.toList_append, String.toList_append, List.mem_append, List.mem_append,
      not_or, not_or]
    exact ⟨⟨noNull_detour isName times, by decide⟩, noNull⟩
  have size : (listedPath ("/".intercalate (detour folder times)) [name]).utf8ByteSize =
      times * (folder.utf8ByteSize + 4) + folder.utf8ByteSize + (1 + name.utf8ByteSize) := by
    rw [whole, String.utf8ByteSize_append, String.utf8ByteSize_append, size_detour, Nat.add_assoc]
    rfl
  have broken : pathError? (listedPath ("/".intercalate (detour folder times)) [name]) =
      some .tooLong := by
    rw [pathError?, if_neg fun null => clean (List.contains_iff_mem.mp null), if_pos (size ▸ long)]
  rw [FileSystem.isTooLong, FileSystem.locate, broken]

end Detour

theorem unreachable_of_candidates {bench : Workbench} {fs : FileSystem} {root : String}
    {folder entry : Location} {rest : List Location} {extensions : List String}
    (configured : (bench.configuration.analysis "file_extensions").members? = .ok extensions)
    (found : fs.root? root = .ok (some folder))
    (candidates : fs.candidates folder false = entry :: rest)
    (long : fs.isTooLong (listedPath root entry) = true) :
    (analyzeDirectory bench fs root false).result =
      .error (.unreachable .tooLong (listedPath root entry)) := by
  simp [analyzeDirectory, configured, FileSystem.search, found, FileSystem.searchFrom,
    candidates, FileSystem.look, long, afterSearch, analyzeFiles, Except.bind]

def emptyFolders : FileSystem := ⟨.empty, [["sub", "inner"]], []⟩

/-- A search below a root with too long a name, or with too long a path below it, or for extensions
that are no collection, finds no files, yet it is an error. -/
theorem unusable_search_gives_no_modules :
    let session := Session.start .default
    let unlisted := session.set "analysis" "file_extensions" .null
    let longName := String.ofList (List.replicate 256 'n')
    let longRoot := "/".intercalate (detour "sub" 584)
    FileSystem.empty.IsTree ∧ FileSystem.empty.files.keys = [] ∧
      (analyzeDirectory (session.bench emptyParser) .empty longName true).result =
        .error (.unreachable .tooLong (tidyPath longName)) ∧
      emptyFolders.IsTree ∧ emptyFolders.files.keys = [] ∧
      emptyFolders.root? longRoot = .ok (some ["sub"]) ∧
      (analyzeDirectory (session.bench emptyParser) emptyFolders longRoot false).result =
        .error (.unreachable .tooLong (listedPath longRoot ["inner"])) ∧
      (analyzeDirectory (unlisted.bench emptyParser) .empty "." true).result =
        .error (.badSetting "'NoneType' object is not iterable") := by
  intro session unlisted longName longRoot
  have size : longName.utf8ByteSize = 256 := by decide +kernel
  have letters : longName.toList = List.replicate 256 'n' := String.toList_ofList
  have fine : pathError? longName = none := by
    rw [pathError?_eq_none_iff, size, letters]
    decide
  have lost : FileSystem.empty.root? longName = .error .tooLong := by
    refine FileSystem.root?_of_longName ?_ ?_ fine
    · rw [letters]
      decide
    · rw [size]
      decide
  have found : emptyFolders.root? longRoot = .ok (some ["sub"]) :=
    root?_detour (by decide) (by decide) (by decide)
  have candidates : emptyFolders.candidates ["sub"] false = [["inner"]] := by
    have alone : (emptyFolders.entriesBelow ["sub"]).filter
        (fun entry => false || entry.length == 1) = [["inner"]] := by decide +kernel
    rw [FileSystem.candidates, alone, List.mergeSort_singleton]
  have long : emptyFolders.isTooLong (listedPath longRoot ["inner"]) = true :=
    isTooLong_detour (by decide) (by decide) (by decide)
  exact ⟨by decide, rfl, result_analyzeDirectory_of_unreachable lost rfl, by decide, rfl, found,
    unreachable_of_candidates rfl found candidates long, result_analyzeDirectory_of_unlisted rfl⟩

end ReactiveProps.Analysis
