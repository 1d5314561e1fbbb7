import LintMend.History.Entry
import LintMend.Proofs.Budget.Text
import LintMend.Proofs.Data.Records
import LintMend.Proofs.Json.Doubles

/-!
# Log entries read back

An entry is read back from its line, with the duration that the text of its
duration stands for.
-/

namespace LintMend.LogEntry

/-- An entry as a run makes it: an instant of the calendar, counts of a machine
word, and a duration that is a number. -/
structure Recordable (entry : LogEntry) : Prop where
  time : entry.time.Valid
  found : entry.found < wordLimit
  fixed : entry.fixed < wordLimit
  deferred : entry.deferred < wordLimit
  rolledBack : entry.rolledBack < wordLimit
  duration : ∃ negative magnitude,
    FloatParts.ofFloat entry.duration = .finite negative magnitude

theorem recordable_blank : LogEntry.blank.Recordable where
  time := ⟨by decide +kernel, by decide, by decide⟩
  found := by decide
  fixed := by decide
  deferred := by decide
  rolledBack := by decide
  duration := ⟨false, _, rfl⟩

/-- What is kept of an entry: all of it, the duration as far as its text
goes. -/
def Stored (entry kept : LogEntry) : Prop :=
  ∃ duration, JsonText.decode Decoder.real
    (Json.floatText entry.duration).toList = .ok duration ∧
    kept = { entry with duration }

variable {entry kept : LogEntry}

theorem decode_count {n : Nat} (small : n < wordLimit) :
    Decoder.count (Json.ofNat n).written = .ok n := by
  have word : (0 : Int) ≤ n ∧ (n : Int) < wordLimit := by omega
  simp [Json.ofNat, Json.written, Decoder.count, word]

@[simp]
theorem decode_errors (errors : List String) :
    Decoder.list Decoder.text (Json.array (errors.map .string)).written =
      .ok errors := by
  have each : (Json.writtenItems (errors.map .string)).mapM Decoder.text =
      .ok errors := by
    induction errors with
    | nil => rfl
    | cons error errors induction =>
        rw [List.map_cons, Json.writtenItems, List.mapM_cons, induction]
        rfl
  simp only [Json.written, Decoder.list, each]
  rfl

@[simp]
theorem decode_status (status : RunStatus) :
    Decoder.choice .lenient (RunStatus.all.map RunStatus.key) RunStatus.ofKey?
      (Json.string status.key).written = .ok status := by
  cases status <;> rfl

@[simp]
theorem decode_mode (mode : RunMode) :
    Decoder.choice .lenient (RunMode.all.map RunMode.key) RunMode.ofKey?
      (Json.string mode.key).written = .ok mode := by
  cases mode <;> rfl

theorem exact_json (recordable : entry.Recordable) : entry.json.Exact := by
  have count {n : Nat} (small : n < wordLimit) : JsonText.IsWord n := by
    have half : (0 : Int) ≤ signedLimit := by decide
    exact ⟨by omega, by omega⟩
  have errors (texts : List String) : Json.ExactItems (texts.map .string) := by
    induction texts with
    | nil => trivial
    | cons text texts induction => exact ⟨trivial, induction⟩
  exact ⟨trivial, trivial, count recordable.found, count recordable.fixed,
    count recordable.deferred, count recordable.rolledBack, errors entry.errors,
    trivial, trivial, trivial, trivial⟩

/-- The fields of an entry, each with what is written of it. -/
def writtenFields (entry : LogEntry) : List (Decoder.Field LogEntry × Data) :=
  [(field "timestamp" .refused Usage.decodeInstant fun time entry =>
        { entry with time },
      .string (some entry.time.text)),
    (field "repository" .refused Decoder.text fun repository entry =>
        { entry with repository },
      .string (some entry.repository)),
    (field "issues_found" .refused Decoder.count fun found entry =>
        { entry with found },
      (Json.ofNat entry.found).written),
    (field "issues_fixed" .refused Decoder.count fun fixed entry =>
        { entry with fixed },
      (Json.ofNat entry.fixed).written),
    (field "issues_deferred" .defaulted Decoder.count fun deferred entry =>
        { entry with deferred },
      (Json.ofNat entry.deferred).written),
    (field "files_rolled_back" .defaulted Decoder.count fun rolledBack entry =>
        { entry with rolledBack },
      (Json.ofNat entry.rolledBack).written),
    (field "errors" .defaulted (Decoder.list Decoder.text) fun errors entry =>
        { entry with errors },
      (Json.array (entry.errors.map .string)).written),
    (field "duration_seconds" .refused Decoder.real fun duration entry =>
        { entry with duration },
      Json.floatData entry.duration),
    (field "status" .refused
        (Decoder.choice .lenient (RunStatus.all.map RunStatus.key)
          RunStatus.ofKey?)
        fun status entry => { entry with status },
      (Json.string entry.status.key).written),
    (field "mode" .refused
        (Decoder.choice .lenient (RunMode.all.map RunMode.key) RunMode.ofKey?)
        fun mode entry => { entry with mode },
      (Json.string entry.mode.key).written)]

theorem written_json (entry : LogEntry) :
    entry.json.written = .object (Decoder.labelled entry.writtenFields)
      true := by
  simp [json, Json.written, Json.writtenFields, writtenFields, Decoder.labelled,
    field]

theorem decode_eq (entry : LogEntry) :
    decode = Decoder.record .lenient (entry.writtenFields.map Prod.fst) blank :=
  rfl

/-- The fields are read one after another. -/
theorem fill_cons {α : Type} {decoder : Decoder α} {data : Data} {value : α}
    (decoded : decoder data = .ok value) (name : String)
    (absence : Decoder.Absence) (set : α → LogEntry → LogEntry)
    (fields : List (Decoder.Field LogEntry × Data)) (record : LogEntry) :
    ((field name absence decoder set, data) :: fields).foldlM
        Decoder.fill record =
      fields.foldlM Decoder.fill (set value record) := by
  have filled : Decoder.fill record (field name absence decoder set, data) =
      .ok (set value record) := by
    rw [Decoder.fill, field]
    simp only [decoded]
    rfl
  rw [List.foldlM_cons, filled]
  rfl

theorem names_distinct (entry : LogEntry) :
    (entry.writtenFields.map fun field => field.1.name).Nodup := by
  simp only [writtenFields, field, List.map_cons, List.map_nil]
  decide

/-- An entry is read back from what is written of it. -/
theorem decode_written (recordable : entry.Recordable) :
    ∃ kept, Stored entry kept ∧ decode entry.json.written = .ok kept := by
  obtain ⟨negative, magnitude, finite⟩ := recordable.duration
  obtain ⟨duration, read⟩ := JsonText.decode_floatText finite
  refine ⟨{ entry with duration }, ⟨duration, read, rfl⟩, ?_⟩
  have real : Decoder.real (Json.floatData entry.duration) = .ok duration := by
    rwa [← JsonText.decode_floatText_eq]
  have time : Usage.decodeInstant (.string (some entry.time.text)) =
      .ok entry.time :=
    Usage.decodeInstant_text recordable.time
  have text : Decoder.text (.string (some entry.repository)) =
      .ok entry.repository := rfl
  rw [decode_eq entry, written_json,
    Decoder.record_ordered entry.names_distinct]
  rw [writtenFields, fill_cons time, fill_cons text,
    fill_cons (decode_count recordable.found),
    fill_cons (decode_count recordable.fixed),
    fill_cons (decode_count recordable.deferred),
    fill_cons (decode_count recordable.rolledBack),
    fill_cons (decode_errors entry.errors), fill_cons real,
    fill_cons (decode_status entry.status), fill_cons (decode_mode entry.mode)]
  rfl

end LintMend.LogEntry
