import ScheduledJobs.Loading
import ScheduledJobs.Proofs.Directory
import ScheduledJobs.Proofs.Results

/-!
# Ways through a tree of files

A way that leads to a directory goes through folders only, so it does not
depend on what a directory without folders holds.
-/

namespace ScheduledJobs.FileTree

variable {tree : FileTree} {place : List String} {contents : Directory}

@[simp] theorem directory_withContents_self (tree : FileTree)
    (place : List String) (contents : Directory) :
    (tree.withContents place contents).directory place = contents := by
  rw [directory, withContents, SortedMap.get?_insert_self, Option.getD_some]

theorem directory_withContents_of_ne {other : List String}
    (different : Path.ofNames other ≠ Path.ofNames place) (tree : FileTree)
    (contents : Directory) :
    (tree.withContents place contents).directory other =
      tree.directory other := by
  rw [directory, directory, withContents, SortedMap.get?_insert,
    if_neg different]

/-- A folder is entered whatever a directory without folders holds instead. -/
theorem enter_withContents (noFolder : (tree.directory place).HasNoFolder)
    {before reached : List String} {name : String}
    (entered : tree.enter before name = .ok reached) :
    (tree.withContents place contents).enter before name = .ok reached := by
  unfold enter at entered ⊢
  split at entered
  · next stays => rwa [if_pos stays]
  · next moves =>
      rw [if_neg moves]
      split at entered
      · next up => rwa [if_pos up]
      · next down =>
          rw [if_neg down]
          split at entered
          · next isFolder =>
              have different : Path.ofNames before ≠ Path.ofNames place := by
                intro same
                have sameDirectory :
                    tree.directory before = tree.directory place := by
                  rw [directory, directory, same]
                exact noFolder name (sameDirectory ▸ isFolder)
              rwa [directory_withContents_of_ne different, isFolder]
          · cases entered
          · split at entered <;> cases entered

theorem walk_cons (tree : FileTree) (place : List String) (name : String)
    (names : List String) :
    tree.walk place (name :: names) =
      tree.enter place name >>= fun next => tree.walk next names :=
  List.foldlM_cons

theorem walk_append (tree : FileTree) (place first second : List String) :
    tree.walk place (first ++ second) =
      tree.walk place first >>= fun next => tree.walk next second :=
  List.foldlM_append

theorem walk_withContents (noFolder : (tree.directory place).HasNoFolder)
    {before reached names : List String}
    (walked : tree.walk before names = .ok reached) :
    (tree.withContents place contents).walk before names = .ok reached := by
  induction names generalizing before with
  | nil => exact walked
  | cons name names ih =>
      rw [walk_cons] at walked ⊢
      obtain ⟨next, entered, rest⟩ := eq_ok_of_bind_eq_ok walked
      rw [enter_withContents noFolder entered]
      exact ih rest

theorem locate_withContents (noFolder : (tree.directory place).HasNoFolder)
    {base path : String} {reached : List String}
    (located : tree.locate base path = .ok reached) :
    (tree.withContents place contents).locate base path = .ok reached := by
  obtain ⟨checked, isChecked, walked⟩ := eq_ok_of_bind_eq_ok located
  rw [locate, isChecked]
  exact walk_withContents noFolder walked

theorem create_of_walk {names reached : List String}
    (walked : tree.walk place names = .ok reached) :
    tree.create place names = .error .occupied := by
  unfold create
  split
  · rfl
  · next name before parted =>
      have divided : names = before.reverse ++ name ::
          (names.reverse.takeWhile String.isEmpty).reverse := by
        have whole : names.reverse.takeWhile String.isEmpty ++
            names.reverse.dropWhile String.isEmpty = names.reverse :=
          List.takeWhile_append_dropWhile
        rw [parted] at whole
        simpa using (congrArg List.reverse whole).symm
      rw [divided, walk_append] at walked
      obtain ⟨next, toNext, rest⟩ := eq_ok_of_bind_eq_ok walked
      rw [walk_cons] at rest
      obtain ⟨inner, entered, -⟩ := eq_ok_of_bind_eq_ok rest
      rw [toNext, ok_bind]
      simp only [entered]
      split <;> rfl

theorem createDirectory_of_locate {base path : String}
    {reached : List String} (located : tree.locate base path = .ok reached) :
    tree.createDirectory base path = (.ok (), tree) := by
  obtain ⟨checked, isChecked, walked⟩ := eq_ok_of_bind_eq_ok located
  have occupied := create_of_walk walked
  simp only [createDirectory, isChecked, ensure, occupied, walked]
  rfl

theorem readText_of_read {base path text : String}
    (found : tree.read base path = .ok (Text.Utf8.encode text)) :
    tree.readText base path = .ok text := by
  rw [readText, found, ok_bind, Text.Utf8.decode?_encode]
  rfl

theorem load_of_read {α : Type} {read : Document.Reader α}
    {base path text : String} {item : α}
    (found : tree.read base path = .ok (Text.Utf8.encode text))
    (reads : Document.Toml.read read text = .ok item) :
    tree.load read base path = .ok item := by
  rw [load, readText_of_read found]
  simp only [mapError_ok, ok_bind, reads]

end ScheduledJobs.FileTree
