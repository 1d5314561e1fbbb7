import Mathlib.Data.List.DropRight
import Mathlib.Data.List.Forall2
import LintMend.History.Log
import LintMend.Proofs.Files.Disk
import LintMend.Proofs.History.Entry
import LintMend.Proofs.Json.Lines
import LintMend.Proofs.Text.Lines
import LintMend.Proofs.Text.Utf8

/-!
# Entries that are added to a log

An entry is added behind whatever the log ends in. If that is a line of its own,
or blank for JSON, every entry that was there is read as before and every new
one behind them. If not, the first new entry and what it was put behind are one
line, and the log has lost an entry.
-/

namespace LintMend.RunLog

/-- What stands behind the last line feed. -/
def unended (content : Text) : Text :=
  content.rtakeWhile (· ≠ '\n')

/-- The entries and the faulty lines of two contents together. -/
def both (first second : List LogEntry × Nat) : List LogEntry × Nat :=
  (first.1 ++ second.1, first.2 + second.2)

theorem entries_of_lines {content front behind : Text}
    (cut : Text.lines content = Text.lines front ++ Text.lines behind) :
    entries content = both (entries front) (entries behind) := by
  simp [entries, writtenLines, cut, both]

theorem length_entries (content : Text) :
    (entries content).1.length + (entries content).2 =
      (writtenLines content).length := by
  simp only [entries]
  induction writtenLines content with
  | nil => rfl
  | cons line lines induction =>
      cases found : parsed? line <;> simp [found] <;> omega

variable {tail : Text} {entry kept : LogEntry} {added stored : List LogEntry}

/-! ## The line of an entry -/

theorem compact_object (fields : List (String × Json)) :
    (Json.object fields).compact.toList =
      '\x7b' :: ((",".intercalate (Json.compactFields fields)).toList ++
          ['\x7d']) := by
  simp [Json.compact]

theorem compact_shape (entry : LogEntry) :
    ∃ inner, entry.json.compact.toList = '\x7b' :: (inner ++ ['\x7d']) :=
  ⟨_, compact_object _⟩

theorem lines_line (plain : '\n' ∉ tail) (entry : LogEntry) (rest : Text) :
    Text.lines (tail ++ (line entry ++ rest)) =
      (tail ++ entry.json.compact.toList) :: Text.lines rest := by
  have whole : '\n' ∉ tail ++ entry.json.compact.toList := by
    simpa [plain] using entry.json.compact_no_feed
  have apart : (tail ++ entry.json.compact.toList).getLast? ≠ some '\r' := by
    obtain ⟨inner, shape⟩ := compact_shape entry
    rw [shape, ← List.cons_append, ← List.append_assoc, List.getLast?_concat]
    decide
  rw [Text.lines, line, List.append_assoc, List.singleton_append,
    ← List.append_assoc, Line.ofText_lf whole apart]
  rfl

@[simp]
theorem line_not_blank (tail : Text) (entry : LogEntry) :
    Text.blank (tail ++ entry.json.compact.toList) = false := by
  obtain ⟨inner, shape⟩ := compact_shape entry
  rw [shape, Text.blank, List.all_append, List.all_cons]
  simp [show Text.isBlank '\x7b' = false from rfl]

/-- The line counts for an entry, if it can be read, and for a faulty line
otherwise. -/
theorem entries_line (plain : '\n' ∉ tail) (entry : LogEntry) (rest : Text) :
    entries (tail ++ (line entry ++ rest)) =
      both (((parsed? (tail ++ entry.json.compact.toList)).toList),
        if (parsed? (tail ++ entry.json.compact.toList)).isNone then 1
        else 0) (entries rest) := by
  have shown := line_not_blank tail entry
  simp only [entries, writtenLines, lines_line plain, both]
  rw [List.filter_cons_of_pos (by rw [shown]; rfl)]
  cases found : parsed? (tail ++ entry.json.compact.toList) with
  | none => simp [found, Nat.add_comm]
  | some kept => simp [found]

/-- An entry is read from its line, blanks in front or not. -/
theorem parsed?_line (blank : ∀ c ∈ tail, JsonText.isBlank c = true)
    (recordable : entry.Recordable) (same : entry.Stored kept) :
    parsed? (tail ++ entry.json.compact.toList) = some kept := by
  obtain ⟨found, ⟨duration, read, rfl⟩, decoded⟩ :=
    LogEntry.decode_written recordable
  obtain ⟨other, readAgain, rfl⟩ := same
  obtain rfl := Except.ok.inj (read.symm.trans readAgain)
  have whole := JsonText.decode_of_reads LogEntry.decode tail []
    (entry.json.reads_compact (LogEntry.exact_json recordable)) blank (by simp)
  rw [List.append_nil, decoded] at whole
  rw [parsed?, whole]
  rfl

theorem entries_lines (recordable : ∀ entry ∈ added, entry.Recordable)
    (same : List.Forall₂ LogEntry.Stored added stored) :
    entries (added.flatMap line) = (stored, 0) := by
  induction same with
  | nil => rfl
  | cons first rest induction =>
      have behind := induction fun entry member =>
        recordable entry (List.mem_cons_of_mem _ member)
      have parsed :=
        @parsed?_line [] _ _ (by simp) (recordable _ List.mem_cons_self) first
      rw [List.flatMap_cons, ← List.nil_append (line _ ++ _),
        entries_line List.not_mem_nil, parsed, behind]
      rfl

/-- Blanks that are none for JSON spoil the line that they stand in front of. -/
theorem parsed?_of_foreign {rest : Text} (blank : Text.blank tail = true)
    (foreign : ¬ ∀ c ∈ tail, JsonText.isBlank c = true) :
    parsed? (tail ++ rest) = none := by
  obtain ⟨c, behind, split⟩ : ∃ c behind,
      tail.dropWhile JsonText.isBlank = c :: behind := by
    apply List.exists_cons_of_ne_nil
    rwa [ne_eq, List.dropWhile_eq_nil_iff]
  have whole :=
    List.takeWhile_append_dropWhile (p := JsonText.isBlank) (l := tail)
  rw [split] at whole
  have space : Text.isBlank c = true := by
    rw [← whole] at blank
    simp only [Text.blank, List.all_append, List.all_cons,
      Bool.and_eq_true] at blank
    exact blank.2.1
  have first : JsonText.isBlank c = false := by
    have head := List.head?_dropWhile_not JsonText.isBlank tail
    rw [split] at head
    simpa using head
  have broken := JsonText.read_of_foreign
    (fun d member => List.mem_takeWhile_imp member : ∀ d ∈ tail.takeWhile _,
      _) space first
    (behind ++ rest)
  rw [parsed?, Except.toOption.eq_def]
  split
  next kept decoded =>
    have read := JsonText.decode_eq_ok decoded
    rw [← whole, List.append_assoc, List.cons_append, broken] at read
    cases read
  next => rfl

/-! ## The content of a log -/

theorem split_content (content : Text) :
    ∃ front, content = front ++ unended content ∧
      (∀ c ∈ front.getLast?, c = '\n') ∧
      '\n' ∉ unended content := by
  refine ⟨content.rdropWhile (· ≠ '\n'),
    List.rdropWhile_append_rtakeWhile.symm, ?_, ?_⟩
  · intro c last
    have some : content.rdropWhile (· ≠ '\n') ≠ [] := by
      intro none
      rw [none] at last
      cases last
    have ended := List.rdropWhile_last_not _ _ some
    rw [List.getLast?_eq_getLast_of_ne_nil some] at last
    obtain rfl := Option.some.inj last
    simpa using ended
  · intro member
    simpa using List.mem_rtakeWhile_imp member

theorem writtenLines_plain (plain : '\n' ∉ tail) :
    writtenLines tail = if Text.blank tail then [] else [tail] := by
  rw [writtenLines, Text.lines, Line.ofText_plain plain]
  by_cases empty : tail = []
  · subst empty
    rfl
  · rw [if_neg empty]
    cases shown : Text.blank tail <;> simp [shown]

theorem blank_of_json (blank : ∀ c ∈ tail, JsonText.isBlank c = true) :
    Text.blank tail = true := by
  rw [Text.blank, List.all_eq_true]
  intro c member
  have found := blank c member
  simp only [JsonText.isBlank, Bool.or_eq_true, beq_iff_eq] at found
  rcases found with ((rfl | rfl) | rfl) | rfl <;> rfl

/-- What was there is read as before, and every new entry behind it, if nothing
but blanks of JSON stands behind the last line feed; if anything else does,
not. -/
theorem entries_append_iff (content : Text) (some : added ≠ [])
    (recordable : ∀ entry ∈ added, entry.Recordable)
    (same : List.Forall₂ LogEntry.Stored added stored) :
    entries (content ++ added.flatMap line) =
      both (entries content) (stored, 0) ↔
      ∀ c ∈ unended content, JsonText.isBlank c = true := by
  obtain ⟨front, split, ended, plain⟩ := split_content content
  generalize unended content = tail at *
  subst split
  obtain ⟨first, later, rfl⟩ := List.exists_cons_of_ne_nil some
  obtain ⟨kept, others, one, rest, rfl⟩ := List.forall₂_cons_left_iff.mp same
  have before : entries (front ++ tail) = both (entries front) (entries tail) :=
    entries_of_lines (by
      rw [Text.lines, Line.ofText_append ended, List.map_append]
      rfl)
  have after : entries (front ++ tail ++ (first :: later).flatMap line) =
      both (entries front)
      (both ((parsed? (tail ++ first.json.compact.toList)).toList,
        if (parsed? (tail ++ first.json.compact.toList)).isNone then 1
        else 0) (others, 0)) := by
    rw [← entries_lines (fun entry member =>
      recordable entry (List.mem_cons_of_mem _ member)) rest,
      ← entries_line plain]
    refine entries_of_lines ?_
    rw [Text.lines, List.append_assoc, Line.ofText_append ended,
      List.map_append]
    rfl
  rw [before, after]
  constructor
  · intro equal
    by_contra foreign
    obtain ⟨read, faulty⟩ := Prod.mk.inj equal
    cases shown : Text.blank tail with
    | true =>
        -- the first new line is faulty, and the one it is added to was passed
        -- over
        have nothing : entries tail = ([], 0) := by
          rw [entries, writtenLines_plain plain, shown]
          rfl
        simp [both, nothing, parsed?_of_foreign shown foreign] at faulty
    | false =>
        -- the first new entry has no line of its own
        have line := length_entries tail
        have many := congrArg List.length read
        rw [writtenLines_plain plain, shown] at line
        generalize parsed? (tail ++ first.json.compact.toList) = outcome
          at many faulty
        cases outcome with
        | none =>
            simp [both] at many
            omega
        | some read =>
            simp [both] at many faulty
            simp [many, faulty] at line
  · intro blank
    have nothing : entries tail = ([], 0) := by
      rw [entries, writtenLines_plain plain, blank_of_json blank]
      rfl
    rw [nothing, parsed?_line blank (recordable first List.mem_cons_self) one]
    simp [both]

/-! ## On the disk -/

variable {disk written : Disk} {path : Path} {content : Text}

theorem append_spec (appended : append path entry disk = .ok written) :
    ∃ made place, disk.makeDirectories (disk.placeOf path).dropLast = .ok made ∧
      made.MayWrite path place ∧
      written.readBytes path =
        .ok (((disk.file? place).map Prod.snd).getD [] ++
            Utf8.encode (line entry)) := by
  obtain ⟨made, making, adding⟩ := bind_eq_ok_iff.mp appended
  have making := mapError_eq_ok_iff.mp making
  obtain ⟨place, may, rfl⟩ :=
    Disk.append_eq_ok_iff.mp (mapError_eq_ok_iff.mp adding)
  refine ⟨made, place, making, may, ?_⟩
  have still := may.of_same (Disk.sameDirectories_withFile may.free
    (((made.file? place).map Prod.snd).getD [] ++ Utf8.encode (line entry)))
  rw [still.readBytes_eq, Disk.file?_withFile may.free, if_pos rfl,
    (Disk.grown_makeDirectories making).1.file?]
  rfl

/-- An entry comes behind everything that the file holds. -/
theorem readText_append (held : disk.readText path = .ok content)
    (appended : append path entry disk = .ok written) :
    written.readText path = .ok (content ++ line entry) := by
  obtain ⟨made, place, making, may, adding⟩ := append_spec appended
  obtain ⟨bytes, readable, decoded⟩ := Disk.readText_eq_ok_iff.mp held
  obtain ⟨goal, mode, located, file, -⟩ := Disk.readBytes_eq_ok_iff.mp readable
  obtain ⟨grown, -⟩ := Disk.grown_makeDirectories making
  obtain rfl : goal = place :=
    Except.ok.inj ((grown.leads.locate located).symm.trans may.located)
  rw [Disk.file?_eq_some.mpr file] at adding
  exact Disk.readText_eq_ok_iff.mpr ⟨_, adding, Utf8.decode?_append decoded _⟩

/-- The first entry makes the file. -/
theorem readText_append_missing (rooted : disk.Rooted)
    (missing : disk.readText path = .error .notFound)
    (appended : append path entry disk = .ok written) :
    written.readText path = .ok (line entry) := by
  obtain ⟨made, place, making, may, adding⟩ := append_spec appended
  have nothing : disk.file? place = none := by
    by_contra there
    obtain ⟨⟨mode, content⟩, there⟩ := Option.ne_none_iff_exists'.mp there
    obtain rfl := Disk.makeDirectories_of_file rooted there making may.located
    have readable : made.readBytes path = .ok content := by
      rw [may.readBytes_eq, there]
      rfl
    rw [Disk.readText, readable] at missing
    cases decoded : Utf8.decode? content with
    | none => simp [decoded, throw, throwThe, MonadExceptOf.throw] at missing
    | some text => simp [decoded, pure, Except.pure] at missing
  rw [nothing, Option.map_none, Option.getD_none, List.nil_append] at adding
  exact Disk.readText_eq_ok_iff.mpr ⟨_, adding, Utf8.decode?_encode _⟩

theorem readText_appended (held : disk.readText path = .ok content)
    (appended : added.foldlM (fun disk entry => append path entry disk) disk =
      .ok written) :
    written.readText path = .ok (content ++ added.flatMap line) := by
  induction added generalizing disk content with
  | nil =>
      obtain rfl := Except.ok.inj appended
      rw [held, List.flatMap_nil, List.append_nil]
  | cons entry added induction =>
      rw [List.foldlM_cons] at appended
      obtain ⟨next, first, rest⟩ := bind_eq_ok_iff.mp appended
      rw [induction (readText_append held first) rest, List.flatMap_cons,
        List.append_assoc]

theorem read_of_readText (held : disk.readText path = .ok content) :
    read path disk = .ok (entries content) := by
  simp only [read, held]

theorem exists_stored (recordable : ∀ entry ∈ added, entry.Recordable) :
    ∃ stored, List.Forall₂ LogEntry.Stored added stored := by
  induction added with
  | nil => exact ⟨[], .nil⟩
  | cons entry added induction =>
      obtain ⟨kept, one, -⟩ :=
        LogEntry.decode_written (recordable entry List.mem_cons_self)
      obtain ⟨stored, rest⟩ :=
        induction fun other member =>
          recordable other (List.mem_cons_of_mem _ member)
      exact ⟨kept :: stored, .cons one rest⟩

/-- Entries that are added to a missing log are all read. -/
theorem added_entries_read_of_missing (rooted : disk.Rooted)
    (missing : disk.readText path = .error .notFound)
    (recordable : ∀ entry ∈ added, entry.Recordable)
    (appended : added.foldlM (fun disk entry => append path entry disk) disk =
      .ok written) :
    ∃ stored, List.Forall₂ LogEntry.Stored added stored ∧
      read path written = .ok (stored, 0) := by
  obtain ⟨stored, same⟩ := exists_stored recordable
  refine ⟨stored, same, ?_⟩
  rw [← entries_lines recordable same]
  cases added with
  | nil =>
      obtain rfl := Except.ok.inj appended
      simp only [read, missing]
      rfl
  | cons entry added =>
      rw [List.foldlM_cons] at appended
      obtain ⟨made, first, rest⟩ := bind_eq_ok_iff.mp appended
      have held := readText_append_missing rooted missing first
      exact read_of_readText (readText_appended held rest)

/-- A disk with nothing but a log. -/
def diskWith (content : Text) : Disk :=
  ⟨[(["runs.jsonl"], .file Disk.fileMode (Utf8.encode content))], []⟩

theorem mayWrite_diskWith (content : Text) :
    (diskWith content).MayWrite fileName ["runs.jsonl"] where
  located := rfl
  free := fun ⟨_, found⟩ => by cases found
  isFile := by decide +kernel

@[simp]
theorem readText_diskWith (content : Text) :
    (diskWith content).readText fileName = .ok content :=
  Disk.readText_eq_ok_iff.mpr
    ⟨_, (mayWrite_diskWith content).readBytes_eq, Utf8.decode?_encode content⟩

@[simp]
theorem append_diskWith (content : Text) (entry : LogEntry) :
    append fileName entry (diskWith content) =
      .ok (diskWith (content ++ line entry)) := by
  have longer : (diskWith content).withFile ["runs.jsonl"]
        (Utf8.encode content ++ Utf8.encode (line entry)) =
      diskWith (content ++ line entry) := by
    rw [Utf8.encode, Utf8.encode, ← List.flatMap_append]
    rfl
  have adding :=
    Disk.append_eq_ok_iff.mpr ⟨_, mayWrite_diskWith content, longer⟩
  have making : (diskWith content).makeDirectories
      ((diskWith content).placeOf fileName).dropLast = .ok (diskWith content) :=
    rfl
  rw [append, making]
  change ((diskWith content).append fileName
      (Utf8.encode (line entry))).mapError _ = _
  rw [adding]
  rfl

/-- Entries that are added to a log are read behind those that were there, with
as many faulty lines as before, exactly if nothing but blanks of JSON stands
behind its last line feed. A line that was torn, or whole but not ended, costs
an entry. -/
theorem added_entries_read_iff {old : List LogEntry} {faulty : Nat}
    (held : disk.readText path = .ok content)
    (before : read path disk = .ok (old, faulty)) (some : added ≠ [])
    (recordable : ∀ entry ∈ added, entry.Recordable)
    (appended : added.foldlM (fun disk entry => append path entry disk) disk =
      .ok written) :
    ∃ stored, List.Forall₂ LogEntry.Stored added stored ∧
      (read path written = .ok (old ++ stored, faulty) ↔
        ∀ c ∈ unended content, JsonText.isBlank c = true) := by
  obtain ⟨stored, same⟩ := exists_stored recordable
  refine ⟨stored, same, ?_⟩
  have found : (old, faulty) = entries content :=
    Except.ok.inj (before.symm.trans (read_of_readText held))
  have whole : (old ++ stored, faulty) =
      both (entries content) (stored, 0) := by
    rw [← found]
    rfl
  rw [read_of_readText (readText_appended held appended),
    Except.ok.injEq, whole]
  exact entries_append_iff content some recordable same

/-- An entry that is added to a torn line is not read. -/
theorem entry_lost_to_torn_line :
    let torn : Text := ['\x7b', '"']
    read fileName (diskWith torn) = .ok ([], 1) ∧
      append fileName .blank (diskWith torn) =
        .ok (diskWith (torn ++ line .blank)) ∧
      ∃ stored, List.Forall₂ LogEntry.Stored [.blank] stored ∧
        read fileName (diskWith (torn ++ line .blank)) ≠ .ok (stored, 1) := by
  intro torn
  have before : read fileName (diskWith torn) = .ok ([], 1) :=
    read_of_readText (readText_diskWith torn)
  have recordable : ∀ entry ∈ [LogEntry.blank], entry.Recordable :=
    List.forall_mem_singleton.mpr LogEntry.recordable_blank
  have appended := append_diskWith torn .blank
  obtain ⟨stored, same, whole⟩ :=
    added_entries_read_iff (readText_diskWith torn) before
    (List.cons_ne_nil .blank []) recordable
      (by rw [List.foldlM_cons, appended]; rfl)
  refine ⟨before, appended, stored, same, fun read => ?_⟩
  have blank := whole.mp read '"' (by decide)
  cases blank

end LintMend.RunLog
