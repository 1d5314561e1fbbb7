import LintMend.Proofs.Fix.Feeds
import LintMend.Proofs.Plan.Entries
import LintMend.Proofs.Run.Calls

/-!
# Where lines go

A fix that is made puts lines in the place of one line, or takes blank lines
away at the end of the file. All other lines stay as they are, and those below
the place move by as many lines as there are more, or fewer, now. The findings
of a file are taken up from the last line to the first, so a line that is left
alone moves exactly by what the fixes of the findings above it add.
-/

namespace LintMend

/-- Whether a finding is fixed in its own line, and not at the end of the
file. -/
def PlannedIssue.editsLine (item : PlannedIssue) : Bool :=
  match item.strategy with
  | .mechanical fix => fix.isLineAddressed
  | .assisted => true

theorem getElem?_splice_of_lt {α : Type} {number index : Nat}
    {items list : List α} (inside : number ≤ list.length)
    (before : index + 1 < number) :
    (splice number items list)[index]? = list[index]? := by
  have short : index < (list.take (number - 1)).length := by
    rw [List.length_take]
    omega
  rw [splice_of_inside (by omega) inside, List.append_assoc,
    List.getElem?_append_left short, List.getElem?_take_of_lt (by omega)]

theorem getElem?_splice_of_ge {α : Type} {number index : Nat}
    {items list : List α} (start : number ≠ 0) (inside : number ≤ list.length)
    (behind : number ≤ index) :
    (splice number items list)[index + items.length - 1]? = list[index]? := by
  have front : (list.take (number - 1) ++ items).length =
      number - 1 + items.length := by
    rw [List.length_append, List.length_take]
    omega
  rw [splice_of_inside start inside,
    List.getElem?_append_right (by omega), front, List.getElem?_drop]
  congr 1
  omega

namespace Buffer.Spliced

variable {buffer fixed : Buffer} {number place : Nat} {texts : List Text}

theorem lineCount_eq (spliced : buffer.Spliced number texts fixed) :
    fixed.lineCount + 1 = buffer.lineCount + texts.length := by
  obtain ⟨start, inside, line, -, rfl⟩ := spliced
  unfold lineCount at inside
  simp only [lineCount, splice_of_inside start inside, List.length_append,
    List.length_take, List.length_map, List.length_drop]
  omega

theorem getElem?_before (spliced : buffer.Spliced number texts fixed)
    (start : place ≠ 0) (before : place < number) :
    fixed.lines[place - 1]? = buffer.lines[place - 1]? := by
  obtain ⟨-, inside, line, -, rfl⟩ := spliced
  exact getElem?_splice_of_lt inside (by omega)

theorem getElem?_behind (spliced : buffer.Spliced number texts fixed)
    (behind : number < place) :
    fixed.lines[place + texts.length - 1 - 1]? = buffer.lines[place - 1]? := by
  obtain ⟨start, inside, line, -, rfl⟩ := spliced
  generalize written : (texts.map fun text =>
    (⟨text, line.ending⟩ : Line)) = items
  have many : items.length = texts.length := by rw [← written, List.length_map]
  have moved :
      (splice number items buffer.lines)[place - 1 + items.length - 1]? =
        buffer.lines[place - 1]? :=
    getElem?_splice_of_ge start inside (by omega)
  rw [← moved, many]
  congr 1
  omega

end Buffer.Spliced

namespace Run

variable {σ : Type} [UsageStore σ]

/-! ## What a turn does -/

namespace Turn

def after (settings : Settings) (turn : Turn σ) : Buffer :=
  (turn.taken settings).2.1

def isMade (settings : Settings) (turn : Turn σ) : Bool :=
  (turn.taken settings).1.isFixed

/-- How many lines there are more. -/
def growth (settings : Settings) (turn : Turn σ) : Int :=
  (turn.after settings).lineCount - turn.buffer.lineCount

/-- Where a line stands after a turn; nowhere if the fix has written over it or
dropped it. -/
def follow (settings : Settings) (turn : Turn σ) (place : Nat) : Option Nat :=
  let line := turn.item.issue.line
  let count := (turn.after settings).lineCount
  if !turn.isMade settings then some place
  else if turn.item.editsLine then
    if place < line then some place
    else if place = line then none
    else some (place + count - turn.buffer.lineCount)
  else if place ≤ count then some place
  else none

/-- What a turn can do to the buffer. -/
inductive Effect (settings : Settings) (turn : Turn σ) : Prop
  | nothing :
      turn.isMade settings = false → turn.after settings = turn.buffer →
          Effect settings turn
  | line {texts : List Text} :
      turn.isMade settings = true → turn.item.editsLine = true →
      turn.buffer.Spliced turn.item.issue.line texts (turn.after settings) →
      Effect settings turn
  | tail :
      turn.isMade settings = true → turn.item.editsLine = false →
      (turn.after settings).lines <+: turn.buffer.lines → Effect settings turn

theorem assist_cases (settings : Settings) (item : PlannedIssue)
    (buffer : Buffer) (site : Site σ) :
    ((assist settings item buffer site).1.isFixed = false ∧
        (assist settings item buffer site).2.1 = buffer) ∨
      ((assist settings item buffer site).1.isFixed = true ∧
        ∃ suggestion, Fix.applySuggestion suggestion buffer item.issue.line =
          .ok (assist settings item buffer site).2.1) := by
  unfold assist
  split
  · exact .inl ⟨rfl, rfl⟩
  · simp only
    split
    · exact .inl ⟨rfl, rfl⟩
    · split
      · exact .inl ⟨rfl, rfl⟩
      · split
        · exact .inl ⟨rfl, rfl⟩
        · next suggestion _ =>
            cases applied : Fix.applySuggestion suggestion buffer
              item.issue.line with
            | error refusal => exact .inl ⟨rfl, rfl⟩
            | ok fixed => exact .inr ⟨rfl, suggestion, applied⟩

/-- A fix that is made is a mechanical one, or a suggestion of the assistant. -/
theorem taken_cases (settings : Settings) (turn : Turn σ) :
    (turn.isMade settings = false ∧ turn.after settings = turn.buffer) ∨
      (turn.isMade settings = true ∧
        ((∃ fix, turn.item.strategy = .mechanical fix ∧
            fix.apply settings.keepPackageFiles turn.item.issue turn.buffer =
              .ok (turn.after settings)) ∨
          (turn.item.strategy = .assisted ∧ ∃ suggestion,
            Fix.applySuggestion suggestion turn.buffer turn.item.issue.line =
              .ok (turn.after settings)))) := by
  simp only [isMade, after, taken, fixIssue]
  cases strategy : turn.item.strategy with
  | assisted =>
      rcases assist_cases settings turn.item turn.buffer turn.site with
        idle | ⟨made, applied⟩
      · exact .inl idle
      · exact .inr ⟨made, .inr ⟨rfl, applied⟩⟩
  | mechanical fix =>
      simp only
      cases applied : fix.apply settings.keepPackageFiles turn.item.issue
        turn.buffer with
      | error refusal => exact .inl ⟨rfl, rfl⟩
      | ok fixed => exact .inr ⟨rfl, .inl ⟨fix, rfl, applied⟩⟩

theorem effect (settings : Settings) (turn : Turn σ) :
    Effect settings turn := by
  rcases turn.taken_cases settings with
    ⟨idle, same⟩ | ⟨made, ⟨fix, strategy, applied⟩ | found⟩
  · exact .nothing idle same
  · have edits : turn.item.editsLine = fix.isLineAddressed := by
      rw [PlannedIssue.editsLine, strategy]
    cases addressed : fix.isLineAddressed with
    | true =>
        obtain ⟨texts, -, spliced⟩ := Fix.apply_spliced addressed applied
        exact .line made (edits.trans addressed) spliced
    | false =>
        refine .tail made (edits.trans addressed) ?_
        cases fix with
        | ensureFinalNewline =>
            rw [(Fix.endLastLine_eq_ok applied).2]
            exact List.prefix_rfl
        | trimTrailingBlankLines =>
            rw [(Fix.trimTail_eq_ok applied).2]
            exact Fix.dropBlankTail_isPrefix turn.buffer.lines
        | _ => cases addressed
  · obtain ⟨strategy, suggestion, applied⟩ := found
    obtain ⟨texts, -, spliced⟩ := Fix.applySuggestion_spliced applied
    exact .line made (by rw [PlannedIssue.editsLine, strategy]) spliced

/-- No turn leaves a line feed in a line. -/
theorem after_whole {settings : Settings} {turn : Turn σ}
    (whole : turn.buffer.Whole) :
    (turn.after settings).Whole := by
  rcases turn.taken_cases settings with
    ⟨-, same⟩ | ⟨-, ⟨fix, -, applied⟩ | found⟩
  · exact same ▸ whole
  · exact Fix.apply_whole whole applied
  · obtain ⟨-, suggestion, applied⟩ := found
    obtain ⟨texts, plain, spliced⟩ := Fix.applySuggestion_spliced applied
    exact spliced.whole plain whole

variable {settings : Settings} {turn : Turn σ} {place later : Nat}

/-- The ways in which a turn leaves a line alone. -/
inductive Moved (settings : Settings) (turn : Turn σ) (place : Nat) : Nat → Prop
  | nothing : turn.after settings = turn.buffer →
      Moved settings turn place place
  | before {texts : List Text} :
      turn.item.editsLine = true → place < turn.item.issue.line →
        turn.buffer.Spliced turn.item.issue.line texts (turn.after settings) →
        Moved settings turn place place
  | behind {texts : List Text} :
      turn.item.editsLine = true → turn.item.issue.line < place →
        turn.buffer.Spliced turn.item.issue.line texts (turn.after settings) →
        Moved settings turn place (place + texts.length - 1)
  | inFront : turn.item.editsLine = false →
      place ≤ (turn.after settings).lineCount →
      (turn.after settings).lines <+: turn.buffer.lines →
      Moved settings turn place place

theorem moved_of_follow (followed : turn.follow settings place = some later) :
    Moved settings turn place later := by
  unfold follow at followed
  cases turn.effect settings with
  | nothing idle same =>
      rw [idle] at followed
      cases followed
      exact .nothing same
  | @line texts made edits spliced =>
      have count := spliced.lineCount_eq
      simp only [made, edits, Bool.not_true, Bool.false_eq_true, if_false,
        if_true] at followed
      split at followed
      · next before =>
          cases followed
          exact .before edits before spliced
      · split at followed
        · cases followed
        · have moved : place + texts.length - 1 = later := by
            have := Option.some.inj followed
            omega
          subst moved
          exact .behind edits (by omega) spliced
  | tail made edits front =>
      simp only [made, edits, Bool.not_true, Bool.false_eq_true, if_false]
        at followed
      split at followed
      · next inside =>
          cases followed
          exact .inFront edits inside front
      · cases followed

/-- A line that is left alone is the same line where it stands then. -/
theorem Moved.line (moved : Moved settings turn place later) {line : Line}
    (start : place ≠ 0) (there : turn.buffer.lines[place - 1]? = some line) :
    later ≠ 0 ∧ (turn.after settings).lines[later - 1]? = some line := by
  cases moved with
  | nothing same => exact ⟨start, same ▸ there⟩
  | before edits before spliced =>
      exact ⟨start, (spliced.getElem?_before start before).trans there⟩
  | @behind texts edits behind spliced =>
      have first := spliced.start
      exact ⟨by omega, (spliced.getElem?_behind behind).trans there⟩
  | inFront edits inside front =>
      obtain ⟨dropped, whole⟩ := front
      refine ⟨start, ?_⟩
      rw [← there, ← whole, List.getElem?_append_left]
      unfold Buffer.lineCount at inside
      omega

/-- A line that is left alone moves by what a fix above it adds. -/
theorem Moved.distance (moved : Moved settings turn place later) :
    (later : Int) = place +
      if turn.item.editsLine && turn.item.issue.line < place then
      turn.growth settings
      else 0 := by
  cases moved with
  | nothing same => simp [growth, same]
  | before edits before spliced =>
      have above : ¬ turn.item.issue.line < place := by omega
      simp [above]
  | @behind texts edits behind spliced =>
      have count := spliced.lineCount_eq
      simp only [edits, behind, growth, decide_true, Bool.and_true, if_true]
      omega
  | inFront edits inside front => simp [edits]

/-- Only a fix above a line moves it, and never in front of the place of the
fix. -/
theorem Moved.above (moved : Moved settings turn place later) :
    later = place ∨ turn.item.issue.line < place ∧
    turn.item.issue.line ≤ later := by
  cases moved with
  | nothing | before | inFront => exact .inl rfl
  | behind edits behind spliced => exact .inr ⟨behind, by omega⟩

/-- A fix counts for a number as it counts for the place, if both are behind
it. -/
theorem Moved.counted (moved : Moved settings turn place later) {number : Nat}
    (stands : place = number ∨
      turn.item.issue.line < number ∧ turn.item.issue.line ≤ place) :
    (later : Int) = place +
      if turn.item.editsLine && turn.item.issue.line < number then
      turn.growth settings
      else 0 := by
  rw [moved.distance]
  rcases stands with rfl | ⟨number, inside⟩
  · rfl
  · cases moved with
    | nothing same => simp [growth, same]
    | before edits before spliced => omega
    | behind edits behind spliced => simp [behind, number]
    | inFront edits inside front => simp [edits]

end Turn

/-! ## What the turns of a file do -/

/-- Where a line stands after some turns, if all of them leave it alone. -/
def follow (settings : Settings) : List (Turn σ) → Nat → Option Nat
  | [], place => some place
  | turn :: turns, place =>
      (turn.follow settings place).bind (follow settings turns)

/-- How many lines the fixes of the findings above a line add. -/
def growthAbove (settings : Settings) (turns : List (Turn σ))
    (number : Nat) : Int :=
  ((turns.filter fun turn =>
    turn.item.editsLine && turn.item.issue.line < number).map
    (Turn.growth settings)).sum

theorem growthAbove_cons (settings : Settings) (turn : Turn σ)
    (turns : List (Turn σ)) (number : Nat) :
    growthAbove settings (turn :: turns) number =
      (if turn.item.editsLine && turn.item.issue.line < number then
        turn.growth settings
        else 0) + growthAbove settings turns number := by
  rw [growthAbove, List.filter_cons]
  split
  · rw [List.map_cons, List.sum_cons, growthAbove]
  · rw [growthAbove, zero_add]

@[simp]
theorem turns_items (settings : Settings) (items : List PlannedIssue)
    (buffer : Buffer) (site : Site σ) :
    (turns settings items buffer site).map Turn.item = items := by
  induction items generalizing buffer site with
  | nil => rfl
  | cons item items induction => rw [turns, List.map_cons, induction]

theorem fixIssues_whole (settings : Settings) (items : List PlannedIssue)
    {buffer : Buffer} (whole : buffer.Whole) (site : Site σ) :
    (fixIssues settings items buffer site).2.1.Whole := by
  induction items generalizing buffer site with
  | nil => exact whole
  | cons item items induction =>
      let turn : Turn σ := ⟨item, buffer, site⟩
      have after : (turn.after settings).Whole := turn.after_whole whole
      exact induction after _

section

variable {settings : Settings} {place later : Nat}

theorem follow_cons {turn : Turn σ} {turns : List (Turn σ)}
    (followed : follow settings (turn :: turns) place = some later) :
    ∃ middle, turn.Moved settings place middle ∧
      follow settings turns middle = some later := by
  obtain ⟨middle, first, rest⟩ := Option.bind_eq_some_iff.mp followed
  exact ⟨middle, turn.moved_of_follow first, rest⟩

theorem fixIssues_follow {items : List PlannedIssue} {buffer : Buffer}
    {site : Site σ}
    (followed : follow settings (turns settings items buffer site) place =
      some later) {line : Line} (start : place ≠ 0)
    (there : buffer.lines[place - 1]? = some line) :
    (fixIssues settings items buffer site).2.1.lines[later - 1]? =
      some line := by
  induction items generalizing buffer site place with
  | nil =>
      cases followed
      exact there
  | cons item items induction =>
      obtain ⟨middle, moved, rest⟩ := follow_cons followed
      obtain ⟨stands, here⟩ := moved.line start there
      exact induction rest stands here

/-- As long as only findings below a line were taken up, it has kept its number
as its place. From then on all findings are above it, and none is below the
place. -/
private theorem follow_distance {turns : List (Turn σ)} {number : Nat}
    (descending : turns.Pairwise fun first second =>
      second.item.issue.line ≤ first.item.issue.line)
    (stands : place = number ∨
      ∀ turn ∈ turns, turn.item.issue.line < number ∧
      turn.item.issue.line ≤ place)
    (followed : follow settings turns place = some later) :
    (later : Int) = place + growthAbove settings turns number := by
  induction turns generalizing place with
  | nil =>
      cases followed
      simp [growthAbove]
  | cons turn turns induction =>
      obtain ⟨below, descending⟩ := List.pairwise_cons.mp descending
      obtain ⟨middle, moved, rest⟩ := follow_cons followed
      have here := moved.counted (stands.imp_right fun above =>
        above turn List.mem_cons_self)
      have behind : middle = number ∨
          ∀ other ∈ turns, other.item.issue.line < number ∧
          other.item.issue.line ≤ middle := by
        rcases moved.above with rfl | ⟨above, inside⟩
        · exact stands.imp_right fun all other member =>
            all other (List.mem_cons_of_mem _ member)
        · right
          intro other member
          have less := below other member
          have under : turn.item.issue.line < number := by
            rcases stands with rfl | all
            · exact above
            · exact (all turn List.mem_cons_self).1
          omega
      rw [induction descending behind rest, here, growthAbove_cons,
        Int.add_assoc]

/-- In the order of a plan, a line that is left alone moves by what the fixes of
the findings above it add. -/
theorem distance_of_follow {entry : FilePlan} (arranged : entry.Arranged)
    {buffer : Buffer} {site : Site σ} {number : Nat}
    (followed : follow settings (turns settings entry.issues buffer site)
      number = some place) :
    (place : Int) =
      number + growthAbove settings (turns settings entry.issues buffer site)
        number := by
  have sorted := arranged.sorted
  rw [← turns_items settings entry.issues buffer site] at sorted
  exact follow_distance
    ((List.pairwise_map.mp sorted).imp Plan.line_le_of_before) (.inl rfl)
    followed

/-- A line that the fixes leave alone can be read where it stands in the new
content. It may have lost a carriage return that was the last character of the
file. -/
theorem text_of_follow {items : List PlannedIssue} {old : Text} {site : Site σ}
    {number : Nat}
    (followed : follow settings (turns settings items (.ofText old) site)
      number = some place) {text : Text} (start : number ≠ 0)
    (there : (Text.lines old)[number - 1]? = some text) :
    let content := (fixIssues settings items (.ofText old) site).2.1.render
    let shown := ((Text.lines content)[place - 1]?).getD []
    shown = text ∨
      old.getLast? = some '\r' ∧ number = (Text.lines old).length ∧
      text = shown ++ ['\r'] := by
  intro content shown
  rw [Text.lines, List.getElem?_map] at there
  obtain ⟨line, found, rfl⟩ := Option.map_eq_some_iff.mp there
  have stands := fixIssues_follow followed start found
  have whole := fixIssues_whole settings items (Buffer.ofText_whole old) site
  rcases Buffer.line_of_render whole stands with same | ⟨ending, returns⟩
  · exact .inl same
  · -- The line was read without an ending, since one that was read with a feed
    -- has no return.
    have ends : line.text.getLast? = some '\r' := by
      rw [returns, List.getLast?_append_of_ne_nil _ (List.cons_ne_nil _ _)]
      rfl
    have member := List.mem_of_getElem? found
    have unended : line.ending = .none := by
      cases kind : line.ending with
      | none => rfl
      | lf => exact absurd ends (Line.getLast?_of_lf line member kind)
      | crlf =>
          rw [Buffer.endingOf, kind] at ending
          cases ending
    obtain ⟨last, closing⟩ := Line.ofText_endsIn old _ line found unended
    refine .inr ⟨closing.trans ends, ?_, returns⟩
    rw [Text.lines, List.length_map]
    omega

end

end Run

end LintMend
