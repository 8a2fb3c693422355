import ActionForge.Project.Store
import ActionForge.Proofs.Identifier
import ActionForge.Proofs.Project.FileTree
import ActionForge.Proofs.Template

/-!
# Places of an action's files

The paths of an action's files are joined from the directory of the project, the section and the key. A
joined name is one part more (`place_join`), so where the key is a name, the files of the action and the
entry file lie below the directory at places of their own. Whatever the key is, the test lies elsewhere than
the module and the entry file, for its name ends otherwise (`place_testPath_ne_modulePath`,
`place_testPath_ne_entryPath`).
-/

namespace ActionForge

open Text

namespace Path

variable {base path name : String}

/-! ## Parts -/

/-- A slash divides the parts before it from those after it. -/
theorem filledPieces_append_slash (text rest : List Char) :
    filledPieces (· = '/') (text ++ '/' :: rest) =
      filledPieces (· = '/') text ++ filledPieces (· = '/') rest := by
  rw [filledPieces, pieces, piecesFrom_append_divider (decide_eq_true rfl), List.filter_append]
  rfl

/-- A text without a slash is one part. -/
theorem filledPieces_of_notMem {text : List Char} (h : '/' ∉ text) (hne : text ≠ []) :
    filledPieces (· = '/') text = [text] := by
  have hno : ∀ c ∈ text, decide (c = '/') = false := fun c hc =>
    decide_eq_false fun hslash => h (hslash ▸ hc)
  rw [filledPieces, pieces_of_forall hno, List.filter_cons_of_pos (by simpa using hne), List.filter_nil]

/-- A relative path adds its parts to those of the path that it is joined to. -/
theorem parts_join (h : isAbsolute path = false) : parts (join base path) = parts base ++ parts path := by
  rw [join, h, Bool.false_or]
  split
  · rename_i hbase
    obtain rfl := String.isEmpty_iff.1 hbase
    rfl
  · split
    · -- The path ends with a slash already, and nothing is left behind it.
      rename_i hslash
      obtain ⟨before, hbefore⟩ := List.getLast?_eq_some_iff.1 hslash
      rw [parts, parts, String.toList_append, hbefore, List.append_assoc, List.singleton_append,
        filledPieces_append_slash, filledPieces_append_slash]
      simp [filledPieces, pieces, piecesFrom, parts]
    · have hslash : "/".toList = ['/'] := rfl
      rw [parts, String.toList_append, String.toList_append, hslash, List.append_assoc,
        List.singleton_append, filledPieces_append_slash]
      rfl

/-- A path with something relative joined to it starts where it started. -/
theorem isAbsolute_join (h : isAbsolute path = false) : isAbsolute (join base path) = isAbsolute base := by
  rw [join, h, Bool.false_or]
  split
  · rename_i hbase
    obtain rfl := String.isEmpty_iff.1 hbase
    exact h
  · rename_i hbase
    have hne : base.toList ≠ [] := fun hnil => hbase (String.isEmpty_iff.2 (String.toList_eq_nil_iff.1 hnil))
    obtain ⟨c, rest, hcons⟩ := List.exists_cons_of_ne_nil hne
    split <;> simp [isAbsolute, String.toList_append, hcons]

/-- Whatever a path is joined to, its parts come last. -/
theorem exists_parts_join (base path : String) : ∃ front, parts (join base path) = front ++ parts path := by
  cases h : isAbsolute path with
  | true => exact ⟨[], by rw [join, h, Bool.true_or, if_pos rfl, List.nil_append]⟩
  | false => exact ⟨parts base, parts_join h⟩

/-- A joined path ends as what was joined to it. -/
theorem getLast?_toList_join (h : path.toList ≠ []) :
    (join base path).toList.getLast? = path.toList.getLast? := by
  rw [join]
  split
  · rfl
  · split <;> rw [String.toList_append, List.getLast?_append_of_ne_nil _ h]

/-- Joining adds no character but a slash. -/
theorem mem_toList_join (h : isAbsolute path = false) {c : Char} (hc : c ≠ '/') :
    c ∈ (join base path).toList ↔ c ∈ base.toList ∨ c ∈ path.toList := by
  rw [join, h, Bool.false_or]
  split
  · rename_i hbase
    obtain rfl := String.isEmpty_iff.1 hbase
    simp
  · split <;> simp [String.toList_append, hc]

/-! ## Plain names -/

/-- A text that leads from a directory to what has this name there. -/
def isPlain (name : String) : Bool :=
  !name.toList.contains '/' && !name.isEmpty && name.toList != ['.'] && name.toList != ['.', '.']

/-- What a plain name is not. -/
theorem isPlain_iff : isPlain name ↔
    '/' ∉ name.toList ∧ name.toList ≠ [] ∧ name.toList ≠ ['.'] ∧ name.toList ≠ ['.', '.'] := by
  simp [isPlain, and_assoc]

/-- A plain name is one part. -/
theorem parts_of_isPlain (h : isPlain name) : parts name = [name.toList] :=
  filledPieces_of_notMem (isPlain_iff.1 h).1 (isPlain_iff.1 h).2.1

/-- A plain name is relative. -/
theorem isAbsolute_of_isPlain (h : isPlain name) : isAbsolute name = false := by
  obtain ⟨hslash, -⟩ := isPlain_iff.1 h
  refine beq_eq_false_iff_ne.2 fun hhead => hslash ?_
  exact List.mem_of_mem_head? hhead

/-- A text without a slash that does not end with a point is a plain name. -/
theorem isPlain_of_getLast? (h : '/' ∉ name.toList) {c : Char} (hlast : name.toList.getLast? = some c)
    (hc : c ≠ '.') : isPlain name := by
  refine isPlain_iff.2 ⟨h, ?_, ?_, ?_⟩
  · exact fun hname => by simp [hname] at hlast
  · exact fun hname => by simp [hname, hc.symm] at hlast
  · exact fun hname => by simp [hname, hc.symm] at hlast

end Path

namespace FileTree

variable {tree : FileTree} {base path name : String}

/-! ## Places below a directory -/

/-- The location of a directory, if everything on its way is there. -/
def within (tree : FileTree) (directory : String) : Location :=
  (Path.parts directory).foldl reached (tree.start directory)

/-- A plain name leads one level down. -/
theorem reached_of_isPlain (h : Path.isPlain name) (location : Location) :
    reached location name.toList = location ++ [name] := by
  obtain ⟨-, -, hpoint, hpoints⟩ := Path.isPlain_iff.1 h
  rw [reached, if_neg hpoint, if_neg hpoints, String.ofList_toList]

/-- The steps of a path that does not end with a slash are its parts. -/
theorem steps_of_getLast? (h : path.toList.getLast? ≠ some '/') : steps path = Path.parts path := by
  rw [steps, if_neg h, List.append_nil]

/-- A plain name that is joined to a path is one step more. -/
theorem steps_join (h : Path.isPlain name) :
    steps (Path.join base name) = Path.parts base ++ [name.toList] := by
  obtain ⟨hslash, hne, -⟩ := Path.isPlain_iff.1 h
  rw [steps_of_getLast?, Path.parts_join (Path.isAbsolute_of_isPlain h), Path.parts_of_isPlain h]
  rw [Path.getLast?_toList_join hne]
  exact fun hlast => hslash (List.mem_of_getLast? hlast)

/-- A path with a name joined to it starts where it started. -/
theorem start_join (h : Path.isPlain name) (base : String) :
    tree.start (Path.join base name) = tree.start base := by
  rw [start, start, Path.isAbsolute_join (Path.isAbsolute_of_isPlain h)]

/-- The place of a joined name is below the directory. -/
theorem place_join (h : Path.isPlain name) :
    tree.place (Path.join base name) = tree.within base ++ [name] := by
  rw [place, steps_join h, start_join h, List.foldl_append]
  exact reached_of_isPlain h _

/-- The location of a joined directory is below the first one. -/
theorem within_join (h : Path.isPlain name) :
    tree.within (Path.join base name) = tree.within base ++ [name] := by
  rw [within, Path.parts_join (Path.isAbsolute_of_isPlain h), start_join h, Path.parts_of_isPlain h,
    List.foldl_append]
  exact reached_of_isPlain h _

/-- A plain name is refused only when it is too long. -/
theorem below_eq_ok_of_isPlain (h : Path.isPlain name) {location last : Location} :
    below location name.toList = .ok last ↔
      Text.byteLength name.toList ≤ nameLimit ∧ last = location ++ [name] := by
  obtain ⟨-, -, hpoint, hpoints⟩ := Path.isPlain_iff.1 h
  rw [below, if_neg hpoint, if_neg hpoints, String.ofList_toList]
  split
  · simp only [reduceCtorEq, false_iff, not_and]
    omega
  · rw [Except.ok.injEq, eq_comm, iff_and_self]
    omega

/-- A name in a directory can be located when the directory is there and the name is not too long. -/
theorem locate_join_iff (h : Path.isPlain name) :
    (∃ location, tree.locate (Path.join base name) = .ok location) ↔
      Char.ofNat 0 ∉ base.toList ∧ Char.ofNat 0 ∉ name.toList ∧ Text.byteLength name.toList ≤ nameLimit ∧
        ∃ location, tree.follow (tree.start base) (Path.parts base) = .ok location ∧
          tree.node? location = some .directory := by
  have hnull : (Path.join base name).toList.contains (Char.ofNat 0) = false ↔
      Char.ofNat 0 ∉ base.toList ∧ Char.ofNat 0 ∉ name.toList := by
    rw [List.contains_eq_mem, decide_eq_false_iff_not,
      Path.mem_toList_join (Path.isAbsolute_of_isPlain h) (by decide), not_or]
  -- A joined path is not empty, for it has a step.
  have hempty : (Path.join base name).isEmpty = false := by
    refine Bool.eq_false_iff.2 fun hempty => ?_
    have hsteps : steps (Path.join base name) = Path.parts base ++ [name.toList] := steps_join h
    rw [String.isEmpty_iff.1 hempty] at hsteps
    exact List.concat_ne_nil _ _ hsteps.symm
  simp only [locate_eq_ok, hnull, hempty, true_and, steps_join h, start_join h, follow_append_eq_ok,
    follow_cons_eq_ok, below_eq_ok_of_isPlain h, and_assoc]
  constructor
  · rintro ⟨location, hbase, hname, mid, hmid, hnode, next, hlimit, -, -⟩
    exact ⟨hbase, hname, hlimit, mid, hmid, hnode⟩
  · rintro ⟨hbase, hname, hlimit, mid, hmid, hnode⟩
    exact ⟨_, hbase, hname, mid, hmid, hnode, _, hlimit, rfl, rfl⟩

end FileTree

namespace Project

open ActionForge.Path FileTree

variable {key : String} (tree : FileTree) (directory : String) (kind : ActionKind)

/-- The names of the sections are plain. -/
theorem isPlain_sectionName : isPlain kind.sectionName := by
  cases kind <;> decide

/-- A script has a plain name when its key has no slash. -/
theorem isPlain_script (h : '/' ∉ key.toList) {ending : String} (hslash : '/' ∉ ending.toList)
    (hlast : ending.toList.getLast? = some 's') : isPlain (key ++ ending) := by
  have hne : ending.toList ≠ [] := fun hnil => by simp [hnil] at hlast
  refine isPlain_of_getLast? (c := 's') ?_ ?_ (by decide)
  · simp [String.toList_append, h, hslash]
  · rw [String.toList_append, List.getLast?_append_of_ne_nil _ hne, hlast]

/-- The module of an action lies in its section. -/
theorem place_modulePath (h : '/' ∉ key.toList) : tree.place (modulePath directory kind key) =
    tree.within directory ++ [kind.sectionName, key ++ ".js"] := by
  rw [modulePath, place_join (isPlain_script h (by decide) rfl), within_join (isPlain_sectionName kind),
    List.append_assoc, List.singleton_append]

/-- The entry file lies right in the directory. -/
theorem place_entryPath : tree.place (Path.join directory entryName) = tree.within directory ++ [entryName] :=
  place_join (by decide)

/-- A module is never the entry file, as it lies a level below. -/
theorem place_modulePath_ne_entryPath (h : '/' ∉ key.toList) :
    tree.place (modulePath directory kind key) ≠ tree.place (Path.join directory entryName) := by
  rw [place_modulePath tree directory kind h, place_entryPath]
  intro hsame
  simpa using congrArg List.length (List.append_cancel_left hsame)

/-- Where a module can be located, so can the entry file. -/
theorem exists_locate_entryPath (h : '/' ∉ key.toList) {location : Location}
    (hmodule : tree.locate (modulePath directory kind key) = .ok location) :
    ∃ location, tree.locate (Path.join directory entryName) = .ok location := by
  have hsection := isPlain_sectionName kind
  obtain ⟨hnull, -, -, last, hfollow, -⟩ :=
    (locate_join_iff (isPlain_script h (by decide) rfl)).1 ⟨location, hmodule⟩
  rw [start_join hsection, parts_join (isAbsolute_of_isPlain hsection), parts_of_isPlain hsection,
    follow_append_eq_ok] at hfollow
  obtain ⟨mid, hmid, hlast⟩ := hfollow
  rw [mem_toList_join (isAbsolute_of_isPlain hsection) (by decide), not_or] at hnull
  exact (locate_join_iff (by decide)).2
    ⟨hnull.1, by decide, by decide, mid, hmid, (follow_cons_eq_ok.1 hlast).1⟩

/-! ## Any key -/

/-- A script has a name that starts as the key goes on after its last slash. -/
theorem exists_getLast?_place (key : String) : ∃ name : String, ∀ base ending : String,
    '/' ∉ ending.toList → ending.toList.getLast? = some 's' →
      (tree.place (Path.join base (key ++ ending))).getLast? = some (name ++ ending) := by
  by_cases hkey : '/' ∈ key.toList
  · -- The last slash of the key is the first one from its end.
    obtain ⟨last, before, hsplit, hlast⟩ :=
      List.eq_append_cons_of_mem (List.mem_reverse.2 hkey)
    have hkey : key.toList = before.reverse ++ '/' :: last.reverse := by
      rw [← List.reverse_reverse key.toList, hsplit, List.reverse_append, List.reverse_cons,
        List.append_assoc]
      rfl
    refine ⟨String.ofList last.reverse, fun base ending hslash hend => ?_⟩
    have hname : isPlain (String.ofList last.reverse ++ ending) :=
      isPlain_script (by simpa using hlast) hslash hend
    have hparts : parts (key ++ ending) =
        filledPieces (· = '/') before.reverse ++ [(String.ofList last.reverse ++ ending).toList] := by
      have hpiece := parts_of_isPlain hname
      rw [parts, String.toList_append, String.toList_ofList] at hpiece
      rw [parts, String.toList_append, hkey, List.append_assoc, List.cons_append,
        filledPieces_append_slash, hpiece, String.toList_append, String.toList_ofList]
    obtain ⟨front, hfront⟩ := exists_parts_join base (key ++ ending)
    have hne : ending.toList ≠ [] := fun hnil => by simp [hnil] at hend
    rw [place, steps_of_getLast?, hfront, hparts, ← List.append_assoc, List.foldl_append, List.foldl_cons,
      List.foldl_nil, reached_of_isPlain hname, List.getLast?_concat]
    rw [getLast?_toList_join, String.toList_append, List.getLast?_append_of_ne_nil _ hne, hend]
    · decide
    · simp [String.toList_append, hne]
  · refine ⟨key, fun base ending hslash hend => ?_⟩
    rw [place_join (isPlain_script hkey hslash hend), List.getLast?_concat]

/-- Whatever the key is, the test is not the module. -/
theorem place_testPath_ne_modulePath (key : String) :
    tree.place (testPath directory kind key) ≠ tree.place (modulePath directory kind key) := by
  obtain ⟨name, hname⟩ := exists_getLast?_place tree key
  intro hsame
  have hlast := congrArg List.getLast? hsame
  rw [testPath, modulePath, hname _ _ (by decide) rfl, hname _ _ (by decide) rfl] at hlast
  -- The two endings differ in length.
  have hlength := congrArg String.length (Option.some.inj hlast)
  rw [String.length_append, String.length_append] at hlength
  exact absurd (Nat.add_left_cancel hlength) (by decide)

/-- Whatever the key is, the test is not the entry file. -/
theorem place_testPath_ne_entryPath (key : String) :
    tree.place (testPath directory kind key) ≠ tree.place (Path.join directory entryName) := by
  obtain ⟨name, hname⟩ := exists_getLast?_place tree key
  intro hsame
  have hlast := congrArg List.getLast? hsame
  rw [testPath, hname _ _ (by decide) rfl, place_entryPath, List.getLast?_concat] at hlast
  -- The last five characters of the two names differ.
  have hchars := congrArg (fun text => text.toList.reverse.take 5) (Option.some.inj hlast)
  simp only [String.toList_append, List.reverse_append] at hchars
  rw [List.take_append_of_le_length (by decide)] at hchars
  exact absurd hchars (by decide)

end Project

end ActionForge
