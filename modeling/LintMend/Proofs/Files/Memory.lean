import LintMend.Files.Memory
import LintMend.Proofs.Path.Order

/-!
# Contents of files in memory

The view of a memory store is the content of each path. A write gives its
content to the paths that name the same steps and leaves all others alone.
-/

namespace LintMend.MemoryFiles

private theorem find?_put (path query : Path) (content : Text)
    (files : List (Path × Text)) :
    ((put path content files).find? fun (other, _) =>
        query.same other).map Prod.snd =
      if query.same path then some content
      else (files.find? fun (other, _) => query.same other).map Prod.snd := by
  induction files with
  | nil => cases asked : query.same path <;> simp [put, asked]
  | cons file files induction =>
      obtain ⟨other, found⟩ := file
      by_cases here : path.same other = true
      · have agree : query.same other = query.same path := by
          rw [Path.same_comm query other, Path.same_comm query path]
          exact (Path.same_congr here query).symm
        rw [put, if_pos here]
        cases asked : query.same path <;> simp [List.find?, agree, asked]
      · rw [put, if_neg here]
        cases asked : query.same other with
        | false => simpa [List.find?, asked] using induction
        | true =>
            have elsewhere : query.same path = false := by
              rw [Bool.eq_false_iff]
              intro same
              apply here
              rw [← Path.same_congr same other]
              exact asked
            simp [List.find?, asked, elsewhere]

/-- An inserted content is what all spellings of the path give; other paths are
untouched. -/
@[simp]
theorem get?_insert (store : MemoryFiles) (path query : Path) (content : Text) :
    (store.insert path content).get? query =
      if query.same path then some content else store.get? query :=
  find?_put path query content store.files

theorem get?_congr (store : MemoryFiles) {left right : Path}
    (same : left.same right = true) : store.get? left = store.get? right := by
  simp only [get?, Path.same_congr same]

theorem read_eq_ok_iff {store : MemoryFiles} {path : Path} {content : Text} :
    store.read path = .ok content ↔ store.get? path = some content := by
  unfold read
  cases store.get? path <;> simp

/-- A write that succeeds sets the content of its path and is noted once. -/
theorem replace_eq_ok {store after : MemoryFiles} {path : Path} {content : Text}
    (written : store.replace path content = .ok after) :
    (∀ query, after.get? query =
        if query.same path then some content else store.get? query) ∧
      after.writes = store.writes ++ [path] := by
  unfold replace at written
  split at written
  · cases written
  · cases written
    exact ⟨fun query => get?_insert store path query content, rfl⟩

theorem denied_of_replace {store after : MemoryFiles} {path : Path}
    {content : Text} (written : store.replace path content = .ok after) :
    after.denied = store.denied := by
  unfold replace at written
  split at written
  · cases written
  · cases written
    rfl

theorem replace_of_denied {store : MemoryFiles} {path : Path}
    (denied : store.denies path = true) (content : Text) :
    store.replace path content = .error (.denied path) :=
  if_pos denied

/-- A path that may be written still may be written afterwards. -/
theorem replace_of_writable {store : MemoryFiles} {path : Path}
    (writable : store.denies path = false) (content : Text) :
    ∃ after, store.replace path content = .ok after ∧
      after.denied = store.denied := by
  rw [replace, if_neg (by simp [writable])]
  exact ⟨_, rfl, rfl⟩

end LintMend.MemoryFiles
