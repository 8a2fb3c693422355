import ActionForge.Project.FileTree
import ActionForge.Proofs.Checked

/-!
# Operations on file trees

A path leads to one place, whatever lies there (`place`), and an operation on a path acts at its place.
Operations leave directories where they are (`KeepsDirectories`), so what has been reached once is reached
again, and making directories a second time makes none. `ChangesOnly` says which files operations may have
changed; new directories do not count.
-/

namespace ActionForge.FileTree

variable {tree mid after : FileTree} {location last : Location} {path text : String}

/-! ## Nodes -/

/-- The text of the file at a location, if there is one. -/
def text? (tree : FileTree) (location : Location) : Option String :=
  match tree.node? location with
  | some (.file text) => some text
  | _ => none

/-- A file's text is what lies at its location. -/
theorem text?_eq_some : tree.text? location = some text ↔ tree.node? location = some (.file text) := by
  rw [text?]
  cases tree.node? location with
  | none => simp
  | some node => cases node <;> simp

/-- Where the same lies, the same text is found. -/
theorem text?_eq_of_node?_eq (h : after.node? location = tree.node? location) :
    after.text? location = tree.text? location := by
  rw [text?, text?, h]

/-- Taking out one location hides no other. -/
theorem lookup_filter_ne (nodes : List (Location × Node)) {location other : Location}
    (h : other ≠ location) :
    (nodes.filter fun entry => entry.1 != location).lookup other = nodes.lookup other := by
  induction nodes with
  | nil => rfl
  | cons entry rest ih =>
    by_cases hentry : entry.1 = location
    · have hother : (other == entry.1) = false := by simpa [hentry] using h
      rw [List.filter_cons_of_neg (by simpa using hentry), List.lookup_cons, hother, ih]
    · rw [List.filter_cons_of_pos (by simpa using hentry), List.lookup_cons, List.lookup_cons, ih]

/-- What lies anywhere after something was put at a place other than the root. -/
theorem node?_put (h : location ≠ []) (node : Node) (other : Location) :
    (tree.put location node).node? other =
      if other = location then some node else tree.node? other := by
  cases other with
  | nil => rw [if_neg h.symm]; rfl
  | cons name names =>
    show List.lookup _ ((location, node) :: _) = _
    rw [List.lookup_cons]
    by_cases hother : name :: names = location
    · simp [hother]
    · -- The new node is in front of the others, and what was at its location is taken out.
      rw [if_neg hother, beq_eq_false_iff_ne.2 hother, lookup_filter_ne _ hother]
      rfl

/-- Directories and files lie where they lay, and paths start where they started. -/
structure Same (tree after : FileTree) : Prop where
  workingDirectory : after.workingDirectory = tree.workingDirectory
  node? : ∀ location, after.node? location = tree.node? location

/-- Directories stay directories, and paths start where they started. -/
structure KeepsDirectories (tree after : FileTree) : Prop where
  workingDirectory : after.workingDirectory = tree.workingDirectory
  directory : ∀ location, tree.node? location = some .directory → after.node? location = some .directory

/-- What stays as it is twice stays as it is. -/
theorem Same.trans (h : Same tree mid) (h' : Same mid after) : Same tree after :=
  ⟨h'.workingDirectory.trans h.workingDirectory, fun location => (h'.node? location).trans (h.node? location)⟩

/-- Where everything lies as it lay, so do the directories. -/
theorem Same.keepsDirectories (h : Same tree after) : KeepsDirectories tree after :=
  ⟨h.workingDirectory, fun location hnode => (h.node? location).trans hnode⟩

theorem KeepsDirectories.refl (tree : FileTree) : KeepsDirectories tree tree := ⟨rfl, fun _ => id⟩

/-- Directories that stay twice stay. -/
theorem KeepsDirectories.trans (h : KeepsDirectories tree mid) (h' : KeepsDirectories mid after) :
    KeepsDirectories tree after :=
  ⟨h'.workingDirectory.trans h.workingDirectory,
    fun location hnode => h'.directory location (h.directory location hnode)⟩

/-! ## Places -/

/-- Where a part of a path leads. -/
def reached (location : Location) (part : List Char) : Location :=
  if part = ['.'] then location
  else if part = ['.', '.'] then location.dropLast
  else location ++ [String.ofList part]

/-- Where a path leads, if everything on its way is there. -/
def place (tree : FileTree) (path : String) : Location := (steps path).foldl reached (tree.start path)

/-- Paths start in the working directory or in the root, whatever the files are. -/
theorem start_eq (h : after.workingDirectory = tree.workingDirectory) (path : String) :
    after.start path = tree.start path := by
  rw [start, start, h]

/-- A path leads to the same place in all trees with the same working directory. -/
theorem place_eq (h : after.workingDirectory = tree.workingDirectory) (path : String) :
    after.place path = tree.place path := by
  rw [place, place, start_eq h]

/-- A step that is allowed leads where its part says. -/
theorem eq_reached_of_below {part : List Char} (h : below location part = .ok last) :
    last = reached location part := by
  rw [below] at h
  rw [reached]
  split at h
  · rename_i hpart
    rw [if_pos hpart]
    exact (Except.ok.inj h).symm
  · rename_i hpart
    rw [if_neg hpart]
    split at h
    · rename_i hpart
      rw [if_pos hpart]
      exact (Except.ok.inj h).symm
    · rename_i hpart
      rw [if_neg hpart]
      split at h
      · cases h
      · exact (Except.ok.inj h).symm

/-- What the first step along a path takes, and what it leaves. -/
theorem follow_cons_eq_ok {part : List Char} {rest : List (List Char)} :
    tree.follow location (part :: rest) = .ok last ↔
      tree.node? location = some .directory ∧
        ∃ next, below location part = .ok next ∧ tree.follow next rest = .ok last := by
  rw [follow]
  cases tree.node? location with
  | none => simp
  | some node => cases node <;> simp [bind_eq_ok_iff]

/-- A path that can be followed ends where its parts lead, one after the other. -/
theorem follow_eq_ok {parts : List (List Char)} (h : tree.follow location parts = .ok last) :
    last = parts.foldl reached location := by
  induction parts generalizing location with
  | nil => exact (Except.ok.inj h).symm
  | cons part rest ih =>
    obtain ⟨-, next, hbelow, hrest⟩ := follow_cons_eq_ok.1 h
    rw [List.foldl_cons, ← eq_reached_of_below hbelow]
    exact ih hrest

/-- A path is followed through the end of its beginning. -/
theorem follow_append_eq_ok {parts rest : List (List Char)} :
    tree.follow location (parts ++ rest) = .ok last ↔
      ∃ next, tree.follow location parts = .ok next ∧ tree.follow next rest = .ok last := by
  induction parts generalizing location with
  | nil => simp [follow]
  | cons part parts ih =>
    rw [List.cons_append, follow_cons_eq_ok]
    simp only [ih, follow_cons_eq_ok]
    constructor
    · rintro ⟨hnode, next, hbelow, mid, hmid, hlast⟩
      exact ⟨mid, ⟨hnode, next, hbelow, hmid⟩, hlast⟩
    · rintro ⟨mid, ⟨hnode, next, hbelow, hmid⟩, hlast⟩
      exact ⟨hnode, next, hbelow, mid, hmid, hlast⟩

/-- A path that could be followed can still be followed when its directories stay. -/
theorem KeepsDirectories.follow (h : KeepsDirectories tree after) {parts : List (List Char)}
    (hfollow : tree.follow location parts = .ok last) : after.follow location parts = .ok last := by
  induction parts generalizing location with
  | nil => exact hfollow
  | cons part rest ih =>
    -- Only directories are followed, and these are still there.
    obtain ⟨hnode, next, hbelow, hrest⟩ := follow_cons_eq_ok.1 hfollow
    exact follow_cons_eq_ok.2 ⟨h.directory location hnode, next, hbelow, ih hrest⟩

/-- A path is located when it is a text that may be a path and can be followed. -/
theorem locate_eq_ok : tree.locate path = .ok last ↔
    path.toList.contains (Char.ofNat 0) = false ∧ path.isEmpty = false ∧
      tree.follow (tree.start path) (steps path) = .ok last := by
  rw [locate]
  cases path.toList.contains (Char.ofNat 0) <;> cases path.isEmpty <;> simp

/-- A path that can be located is located at its place. -/
theorem eq_place_of_locate (h : tree.locate path = .ok last) : last = tree.place path :=
  follow_eq_ok (locate_eq_ok.1 h).2.2

/-- A path that could be located is located where it was. -/
theorem KeepsDirectories.locate (h : KeepsDirectories tree after) (hlocate : tree.locate path = .ok last) :
    after.locate path = .ok last := by
  obtain ⟨hnull, hempty, hfollow⟩ := locate_eq_ok.1 hlocate
  refine locate_eq_ok.2 ⟨hnull, hempty, ?_⟩
  rw [start_eq h.workingDirectory]
  exact h.follow hfollow

/-! ## Reading and writing -/

/-- Reading gives the file at the location of the path, or says what is there instead. -/
theorem read_of_locate (h : tree.locate path = .ok location) : tree.read path =
    match tree.node? location with
    | some (.file text) => .ok text
    | some .directory => .error .isADirectory
    | none => .error .notFound := by
  rw [FileTree.read, h]
  rfl

/-- Reading succeeds when a file is at the location. -/
theorem read_eq_ok : tree.read path = .ok text ↔
    ∃ location, tree.locate path = .ok location ∧ tree.node? location = some (.file text) := by
  rw [FileTree.read, bind_eq_ok_iff]
  refine exists_congr fun location => and_congr_right fun _ => ?_
  cases tree.node? location with
  | none => simp
  | some node => cases node <;> simp

/-- What is read is the text at the place of the path. -/
theorem text?_of_read (h : tree.read path = .ok text) : tree.text? (tree.place path) = some text := by
  obtain ⟨location, hlocate, hnode⟩ := read_eq_ok.1 h
  rw [← eq_place_of_locate hlocate, text?_eq_some, hnode]

/-- Something is at a path that can be located when something is at its location. -/
theorem isThere_of_locate (h : tree.locate path = .ok location) :
    tree.isThere path = (tree.node? location).isSome := by
  rw [isThere, h]

/-- A file may be written at a location where no directory is, under a path that has the form of a file's. -/
theorem writeLocation_eq_ok : tree.writeLocation path = .ok location ↔
    namesDirectory path = false ∧ tree.locate path = .ok location ∧
      tree.node? location ≠ some .directory := by
  rw [writeLocation]
  cases namesDirectory path with
  -- Such a path is refused, though perhaps for another reason first.
  | true => cases path.isEmpty <;> simp [bind_eq_ok_iff]
  | false =>
    simp only [Bool.false_and, Bool.false_eq_true, if_false, bind_eq_ok_iff, true_and]
    constructor
    · rintro ⟨_, -, last, hlocate, h⟩
      split at h
      · cases h
      · rename_i hnode
        obtain rfl := Except.ok.inj h
        exact ⟨hlocate, hnode⟩
    · rintro ⟨hlocate, hnode⟩
      refine ⟨location, hlocate, location, hlocate, ?_⟩
      split
      · rename_i hdirectory
        exact absurd hdirectory hnode
      · rfl

/-- Writing puts the file where it may be written. -/
theorem write_eq_ok : tree.write path text = .ok after ↔
    namesDirectory path = false ∧ ∃ location, tree.locate path = .ok location ∧
      tree.node? location ≠ some .directory ∧ after = tree.put location (.file text) := by
  rw [write, bind_eq_ok_iff]
  simp only [writeLocation_eq_ok, pure, Except.pure, Except.ok.injEq]
  constructor
  · rintro ⟨location, ⟨hform, hlocate, hnode⟩, rfl⟩
    exact ⟨hform, location, hlocate, hnode, rfl⟩
  · rintro ⟨hform, location, hlocate, hnode, rfl⟩
    exact ⟨location, ⟨hform, hlocate, hnode⟩, rfl⟩

/-! ## Making directories -/

/-- All parts of a path lead to directories. -/
def Along (tree : FileTree) (location : Location) : List (List Char) → Prop
  | [] => True
  | part :: rest => ∃ next, below location part = .ok next ∧ tree.node? next = some .directory ∧
      tree.Along next rest

/-- Parts that lead to directories still do when the directories stay. -/
theorem KeepsDirectories.along (h : KeepsDirectories tree after) {parts : List (List Char)}
    (halong : tree.Along location parts) : after.Along location parts := by
  induction parts generalizing location with
  | nil => trivial
  | cons part rest ih =>
    obtain ⟨next, hbelow, hnode, hrest⟩ := halong
    exact ⟨next, hbelow, h.directory next hnode, ih hrest⟩

/-- Where all parts lead to directories, none are made. -/
theorem makeAlong_of_along {parts : List (List Char)} (h : tree.Along location parts) :
    tree.makeAlong location parts = .ok tree := by
  induction parts generalizing location with
  | nil => rfl
  | cons part rest ih =>
    obtain ⟨next, hbelow, hnode, hrest⟩ := h
    rw [makeAlong, bind_eq_ok_iff]
    refine ⟨next, hbelow, ?_⟩
    rw [hnode]
    exact ih hrest

/-- Nothing was changed but that directories were put where nothing was. -/
structure MakesDirectories (tree after : FileTree) : Prop where
  workingDirectory : after.workingDirectory = tree.workingDirectory
  node? : ∀ location, after.node? location = tree.node? location ∨
    tree.node? location = none ∧ after.node? location = some .directory

/-- Making directories takes none away. -/
theorem MakesDirectories.keepsDirectories (h : MakesDirectories tree after) :
    KeepsDirectories tree after where
  workingDirectory := h.workingDirectory
  directory location hnode := by
    rcases h.node? location with hsame | ⟨hnone, -⟩
    · rw [hsame, hnode]
    · rw [hnone] at hnode
      cases hnode

/-- Directories that are made in two steps are made. -/
theorem MakesDirectories.trans (h : MakesDirectories tree mid) (h' : MakesDirectories mid after) :
    MakesDirectories tree after where
  workingDirectory := h'.workingDirectory.trans h.workingDirectory
  node? location := by
    rcases h'.node? location with hsame | ⟨hnone, hmade⟩
    · rw [hsame]
      exact h.node? location
    · rcases h.node? location with hsame | ⟨-, hmade'⟩
      · exact .inr ⟨hsame ▸ hnone, hmade⟩
      · rw [hmade'] at hnone
        cases hnone

/-- New directories change no file. -/
theorem MakesDirectories.text? (h : MakesDirectories tree after) (location : Location) :
    after.text? location = tree.text? location := by
  rcases h.node? location with hsame | ⟨hnone, hmade⟩
  · exact text?_eq_of_node?_eq hsame
  · rw [FileTree.text?, FileTree.text?, hnone, hmade]

/-- A directory that is put where nothing was is there then. -/
theorem makesDirectories_put (h : tree.node? location = none) :
    MakesDirectories tree (tree.put location .directory) ∧
      (tree.put location .directory).node? location = some .directory := by
  -- The root is always there, so what is missing is not the root.
  have hroot : location ≠ [] := by
    rintro rfl
    cases h
  refine ⟨⟨rfl, fun other => ?_⟩, ?_⟩
  · rw [node?_put hroot]
    split
    · rename_i hother
      exact .inr ⟨hother ▸ h, rfl⟩
    · exact .inl rfl
  · rw [node?_put hroot, if_pos rfl]

/-- Making directories along a path makes directories only, and then all its parts lead to directories. -/
theorem makeAlong_eq_ok {parts : List (List Char)} (h : tree.makeAlong location parts = .ok after) :
    MakesDirectories tree after ∧ after.Along location parts := by
  induction parts generalizing tree location with
  | nil =>
    obtain rfl := Except.ok.inj h
    exact ⟨⟨rfl, fun _ => .inl rfl⟩, trivial⟩
  | cons part rest ih =>
    rw [makeAlong, bind_eq_ok_iff] at h
    obtain ⟨next, hbelow, h⟩ := h
    split at h
    · rename_i hnode
      obtain ⟨hmakes, halong⟩ := ih h
      exact ⟨hmakes, next, hbelow, hmakes.keepsDirectories.directory next hnode, halong⟩
    · rename_i hnode
      obtain ⟨hmakes, halong⟩ := ih h
      -- A directory that was put stays one while those below it are made.
      obtain ⟨hput, hmade⟩ := makesDirectories_put hnode
      exact ⟨hput.trans hmakes, next, hbelow, hmakes.keepsDirectories.directory next hmade, halong⟩
    · cases h

/-- Making a directory and what is missing above it makes directories only. -/
theorem makesDirectories_of_makeDirectories (h : tree.makeDirectories path = .ok after) :
    MakesDirectories tree after := by
  rw [makeDirectories] at h
  split at h
  · cases h
  · exact (makeAlong_eq_ok h).1

/-- Directories that have been made are not made again. -/
theorem makeDirectories_again (h : tree.makeDirectories path = .ok mid) (h' : KeepsDirectories mid after) :
    after.makeDirectories path = .ok after := by
  rw [makeDirectories] at h ⊢
  split at h
  · cases h
  · rename_i hnull
    obtain ⟨hmakes, halong⟩ := makeAlong_eq_ok h
    rw [if_neg hnull, start_eq (h'.workingDirectory.trans hmakes.workingDirectory)]
    exact makeAlong_of_along (h'.along halong)

/-! ## Changing files -/

/-- Directories stay directories, and files keep their texts but for those at some paths. -/
structure ChangesOnly (paths : List String) (tree after : FileTree) : Prop where
  keepsDirectories : KeepsDirectories tree after
  text? : ∀ location, location ∉ paths.map tree.place → after.text? location = tree.text? location

namespace ChangesOnly

variable {paths paths' : List String}

theorem refl (paths : List String) (tree : FileTree) : ChangesOnly paths tree tree :=
  ⟨.refl tree, fun _ _ => rfl⟩

/-- More paths may be named than those with changes. -/
theorem mono (h : ChangesOnly paths tree after) (hpaths : ∀ path ∈ paths, path ∈ paths') :
    ChangesOnly paths' tree after :=
  ⟨h.keepsDirectories, fun location hlocation =>
    h.text? location fun hmem => hlocation (List.map_subset _ hpaths hmem)⟩

/-- Two steps with changes at some paths have changes at these paths together. -/
theorem trans (h : ChangesOnly paths tree mid) (h' : ChangesOnly paths mid after) :
    ChangesOnly paths tree after := by
  refine ⟨h.keepsDirectories.trans h'.keepsDirectories, fun location hlocation => ?_⟩
  have hplaces : mid.place = tree.place := funext (place_eq h.keepsDirectories.workingDirectory)
  rw [h'.text? location (hplaces ▸ hlocation), h.text? location hlocation]

/-- Making directories changes no file. -/
theorem of_makesDirectories (h : MakesDirectories tree after) : ChangesOnly [] tree after :=
  ⟨h.keepsDirectories, fun location _ => h.text? location⟩

end ChangesOnly

/-- After a file was written it lies at its place, and all else where it was. -/
theorem node?_of_write (h : tree.write path text = .ok after) (location : Location) :
    after.node? location = if location = tree.place path then some (.file text) else tree.node? location := by
  obtain ⟨-, written, hlocate, hnode, rfl⟩ := write_eq_ok.1 h
  obtain rfl := eq_place_of_locate hlocate
  refine node?_put ?_ _ location
  intro hroot
  rw [hroot] at hnode
  exact hnode rfl

/-- Writing changes the file at its path and no other. -/
theorem changesOnly_of_write (h : tree.write path text = .ok after) : ChangesOnly [path] tree after := by
  obtain ⟨-, written, hlocate, hnode, hafter⟩ := write_eq_ok.1 h
  obtain rfl := eq_place_of_locate hlocate
  refine ⟨⟨by rw [hafter]; rfl, fun location hdirectory => ?_⟩, fun location hlocation => ?_⟩
  · rw [node?_of_write h, if_neg, hdirectory]
    rintro rfl
    exact hnode hdirectory
  · refine text?_eq_of_node?_eq ?_
    rw [node?_of_write h, if_neg (by simpa using hlocation)]

/-- What was written is read back. -/
theorem read_of_write (h : tree.write path text = .ok after) : after.read path = .ok text := by
  obtain ⟨-, location, hlocate, -, -⟩ := write_eq_ok.1 h
  -- Writing took no directory away, so the path still leads to where the file was put.
  refine read_eq_ok.2 ⟨location, (changesOnly_of_write h).keepsDirectories.locate hlocate, ?_⟩
  rw [node?_of_write h, if_pos (eq_place_of_locate hlocate)]

/-- A file that has been written can be written again, and writing what it holds leaves all as it is. -/
theorem write_again {old : String} (h : tree.write path old = .ok mid) (hread : after.read path = .ok text) :
    ∃ again, after.write path text = .ok again ∧ Same after again := by
  obtain ⟨location, hlocate, hnode⟩ := read_eq_ok.1 hread
  have hwrite : after.write path text = .ok (after.put location (.file text)) :=
    write_eq_ok.2 ⟨(write_eq_ok.1 h).1, location, hlocate, by simp [hnode], rfl⟩
  refine ⟨_, hwrite, rfl, fun other => ?_⟩
  rw [node?_of_write hwrite, ← eq_place_of_locate hlocate]
  split
  · -- The text that is put there again is the text that was there.
    rename_i hother
    rw [hother, hnode]
  · rfl

/-- A path that is read gives the same text where nothing was changed. -/
theorem KeepsDirectories.read (h : KeepsDirectories tree after) (hread : tree.read path = .ok text)
    (htext : after.text? (tree.place path) = some text) : after.read path = .ok text := by
  obtain ⟨location, hlocate, -⟩ := read_eq_ok.1 hread
  obtain rfl := eq_place_of_locate hlocate
  exact read_eq_ok.2 ⟨_, h.locate hlocate, text?_eq_some.1 htext⟩

/-- Where everything lies as it lay, files have their texts. -/
theorem Same.text? (h : Same tree after) (location : Location) : after.text? location = tree.text? location :=
  text?_eq_of_node?_eq (h.node? location)

/-- What could be read before can be read again. -/
theorem Same.read (h : Same tree after) (hread : tree.read path = .ok text) : after.read path = .ok text :=
  h.keepsDirectories.read hread ((h.text? _).trans (text?_of_read hread))

end ActionForge.FileTree
