import LintMend.Budget.Store
import LintMend.Files.Memory

/-!
# Workbenches

A run in memory: the files and the usage store that it works on.
-/

namespace LintMend

structure Bench where
  files : MemoryFiles
  usage : MemoryUsage
  deriving Repr

instance : FileStore Bench where
  read bench path := bench.files.read path
  replace bench path content := do
    let files ← bench.files.replace path content
    .ok { bench with files }
  exists? bench path := FileStore.exists? bench.files path

instance : UsageStore Bench where
  load bench :=
    let (answer, usage) := bench.usage.load
    (answer, { bench with usage })
  update change bench :=
    let (answer, usage) := bench.usage.update change
    (answer, { bench with usage })
  describe bench := UsageStore.describe bench.usage

end LintMend
