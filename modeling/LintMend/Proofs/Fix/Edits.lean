import Mathlib.Data.List.Perm.Subperm
import Mathlib.Data.List.Nodup
import Mathlib.Tactic.ByContra
import LintMend.Plan
import LintMend.Proofs.Fix.Locality

/-!
# Where lines come from

Every line of a buffer carries the number that it had in the file, until an edit
writes another one in its place. Edits from the last line to the first leave the
lines in front of them where they were. So the only edit that hits a line of
another number is one that finds its own line removed by the edit before.
-/

namespace LintMend

/-- A fix that was made, and the lines that stand in the place of its line
since. -/
structure Edit where
  item : PlannedIssue
  lines : List Line

/-- A line, and the number that it had in the file if no edit has touched it. -/
structure Traced where
  line : Line
  origin : Option Nat

namespace Traced

def ofLines (lines : List Line) : List Traced :=
  (lines.zipIdx 1).map fun (line, number) => ⟨line, some number⟩

/-- A line that an edit has written. -/
def written (line : Line) : Traced :=
  ⟨line, none⟩

end Traced

namespace Edit

def number (edit : Edit) : Nat :=
  edit.item.issue.line

def replay {α : Type} (write : Line → α) (edits : List Edit)
    (list : List α) : List α :=
  edits.foldl (fun list edit =>
    splice edit.number (edit.lines.map write) list) list

def numbered (count : Nat) : List (Option Nat) :=
  (List.range' 1 count).map some

/-- The lines after the edits, each with the number it came from. -/
def trace (edits : List Edit) (lines : List Line) : List Traced :=
  replay Traced.written edits (Traced.ofLines lines)

section

variable {α β : Type} {write : Line → α}

@[simp]
theorem replay_nil (list : List α) : replay write [] list = list := rfl

@[simp]
theorem replay_cons (edit : Edit) (edits : List Edit) (list : List α) :
    replay write (edit :: edits) list =
      replay write edits (splice edit.number (edit.lines.map write) list) := rfl

theorem replay_append (first second : List Edit) (list : List α) :
    replay write (first ++ second) list =
      replay write second (replay write first list) :=
  List.foldl_append

@[simp]
theorem map_replay (f : α → β) (edits : List Edit) (list : List α) :
    (replay write edits list).map f =
      replay (f ∘ write) edits (list.map f) := by
  induction edits generalizing list with
  | nil => rfl
  | cons edit edits induction =>
      rw [replay_cons, induction, map_splice, List.map_map, replay_cons]

end

@[simp]
theorem map_line_trace (edits : List Edit) (lines : List Line) :
    (trace edits lines).map Traced.line = replay id edits lines := by
  have start : (Traced.ofLines lines).map Traced.line = lines := by
    simp [Traced.ofLines, Function.comp_def]
  rw [trace, map_replay, start]
  rfl

/-! ## Origins -/

def origins (edits : List Edit) (list : List (Option Nat)) :
    List (Option Nat) :=
  replay (fun _ => none) edits list

@[simp]
theorem map_origin_trace (edits : List Edit) (lines : List Line) :
    (trace edits lines).map Traced.origin =
      origins edits (numbered lines.length) := by
  have start : (Traced.ofLines lines).map Traced.origin =
      numbered lines.length := by
    rw [numbered, ← List.zipIdx_map_snd 1 lines, Traced.ofLines, List.map_map,
      List.map_map]
    rfl
  rw [trace, map_replay, start]
  rfl

section

variable {number origin : Nat} {list : List (Option Nat)} {lines : List Line}

theorem mem_of_mem_splice
    (member : some origin ∈ splice number (lines.map fun _ => none) list) :
    some origin ∈ list := by
  unfold splice at member
  split at member
  · exact member
  · simp only [List.mem_append, List.mem_map, reduceCtorEq, and_false,
      exists_false, or_false] at member
    rcases member with before | after
    · exact List.mem_of_mem_take before
    · exact List.mem_of_mem_drop after

theorem mem_of_mem_origins {edits : List Edit}
    (member : some origin ∈ origins edits list) :
    some origin ∈ list := by
  induction edits generalizing list with
  | nil => exact member
  | cons edit edits induction => exact mem_of_mem_splice (induction member)

/-- An origin that an edit loses is the one it is addressed to. -/
theorem hit_of_lost (there : some origin ∈ list)
    (lost : some origin ∉ splice number (lines.map fun _ => none) list) :
    number ≠ 0 ∧ list[number - 1]? = some (some origin) := by
  unfold splice at lost
  split at lost
  · exact absurd there lost
  · next inside =>
      refine ⟨by omega, ?_⟩
      have bound : number - 1 < list.length := by omega
      have next : number - 1 + 1 = number := by omega
      have parts := List.take_append_drop (number - 1) list
      rw [List.drop_eq_getElem_cons bound, next] at parts
      rw [← parts] at there
      rw [List.getElem?_eq_getElem bound]
      simp only [List.mem_append, List.mem_cons, not_or] at there lost
      rcases there with before | here | after
      · exact absurd before lost.1.1
      · rw [here]
      · exact absurd after lost.2

/-- The origin that an edit is addressed to is lost, if no other line has it. -/
theorem lost_of_hit (unique : (list.filterMap id).Nodup) (start : number ≠ 0)
    (hit : list[number - 1]? = some (some origin)) :
    some origin ∉ splice number (lines.map fun _ => none) list := by
  obtain ⟨bound, here⟩ := List.getElem?_eq_some_iff.mp hit
  have next : number - 1 + 1 = number := by omega
  have parts := List.take_append_drop (number - 1) list
  rw [List.drop_eq_getElem_cons bound, next, here] at parts
  rw [← parts] at unique
  rw [splice_of_inside start (by omega)]
  simp only [List.filterMap_append, List.filterMap_cons, id, List.nodup_append,
    List.nodup_cons, List.mem_filterMap] at unique
  simp only [List.mem_append, List.mem_map, reduceCtorEq, and_false,
    exists_false, or_false, not_or]
  constructor
  · intro before
    exact unique.2.2 origin ⟨_, before, rfl⟩ origin List.mem_cons_self rfl
  · intro after
    exact unique.2.1.1 ⟨_, after, rfl⟩

theorem splice_nodup (unique : (list.filterMap id).Nodup) :
    ((splice number (lines.map fun _ => none) list).filterMap id).Nodup := by
  unfold splice
  split
  · exact unique
  · have nothing : (lines.map fun _ =>
      (none : Option Nat)).filterMap id = [] := by
      simp
    rw [List.filterMap_append, List.filterMap_append, nothing, List.append_nil,
      ← List.filterMap_append]
    have fewer : (list.take (number - 1) ++ list.drop number).Sublist
        (list.take (number - 1) ++ list.drop (number - 1)) :=
      List.Sublist.append_left (List.drop_sublist_drop_left _ (by omega)) _
    rw [List.take_append_drop] at fewer
    exact (fewer.filterMap id).nodup unique

theorem origins_nodup {edits : List Edit} (unique : (list.filterMap id).Nodup) :
    ((origins edits list).filterMap id).Nodup := by
  induction edits generalizing list with
  | nil => exact unique
  | cons edit edits induction => exact induction (splice_nodup unique)

theorem exists_hit_of_lost {edits : List Edit} (there : some origin ∈ list)
    (lost : some origin ∉ origins edits list) :
    ∃ before edit after, edits = before ++ edit :: after ∧ edit.number ≠ 0 ∧
      (origins before list)[edit.number - 1]? = some (some origin) := by
  induction edits generalizing list with
  | nil => exact absurd there lost
  | cons edit edits induction =>
      by_cases kept : some origin ∈ splice edit.number (edit.lines.map fun _ =>
        none) list
      · obtain ⟨before, later, after, split, start, hit⟩ := induction kept lost
        exact ⟨edit :: before, later, after, by
          rw [split, List.cons_append], start, hit⟩
      · obtain ⟨start, hit⟩ := hit_of_lost there kept
        exact ⟨[], edit, edits, rfl, start, hit⟩

/-- Edits behind a line leave it and all lines in front of it where they
were. -/
theorem getElem?_origins_of_lt {edits : List Edit} {index : Nat}
    (behind : ∀ edit ∈ edits, index + 1 < edit.number) :
    (origins edits list)[index]? = list[index]? := by
  induction edits generalizing list with
  | nil => rfl
  | cons edit edits induction =>
      have later := behind edit List.mem_cons_self
      rw [origins, replay_cons, ← origins,
        induction fun other member =>
          behind other (List.mem_cons_of_mem _ member)]
      unfold splice
      split
      · rfl
      · have inside : index < (list.take (edit.number - 1)).length := by
          rw [List.length_take]
          omega
        rw [List.append_assoc, List.getElem?_append_left inside,
          List.getElem?_take_of_lt (by omega)]

end

/-! ## Lines that are hit by mistake -/

/-- From the last line to the first. -/
def Descending (edits : List Edit) : Prop :=
  edits.Pairwise fun earlier later => later.number ≤ earlier.number

/-- In a file of `count` lines, an edit removes its line, and the next one is
addressed to the same number, where the line of another number, `origin`, has
come to stand. -/
def Overruns (edits : List Edit) (count origin : Nat) : Prop :=
  ∃ before first second after, edits = before ++ first :: second :: after ∧
    first.number = second.number ∧ first.lines = [] ∧
    (origins before (numbered count))[first.number]? = some (some origin)

variable {count origin : Nat} {edits : List Edit}

private theorem getElem?_start {index : Nat}
    (hit : (numbered count)[index]? = some (some origin)) :
    origin = index + 1 := by
  rw [numbered, List.getElem?_map, Option.map_eq_some_iff] at hit
  obtain ⟨number, found, here⟩ := hit
  obtain ⟨bound, there⟩ := List.getElem?_eq_some_iff.mp found
  rw [List.getElem_range'] at there
  cases here
  omega

/-- What an edit has written has no origin, so an origin in its place has come
from behind. -/
private theorem moved_up {list : List (Option Nat)} {number : Nat}
    {lines : List Line} (start : number ≠ 0)
    (hit : (splice number (lines.map fun _ => none) list)[number - 1]? =
      some (some origin)) :
    lines = [] ∧ list[number]? = some (some origin) := by
  unfold splice at hit
  split at hit
  · next outside =>
      have bound := (List.getElem?_eq_some_iff.mp hit).1
      omega
  · next inside =>
      have before : (list.take (number - 1)).length = number - 1 := by
        rw [List.length_take]
        omega
      rw [List.append_assoc, List.getElem?_append_right (by omega), before,
        Nat.sub_self]
        at hit
      cases lines with
      | nil => simpa using hit
      | cons line lines => simp at hit

/-- Going from the last line to the first, a line is lost to the edits of other
lines exactly if it comes to stand where the line of an edit was removed, and
the next edit is of that line too. -/
theorem lost_iff_overruns (descending : Descending edits)
    (started : ∀ edit ∈ edits, edit.number ≠ 0)
    (inside : 1 ≤ origin ∧ origin ≤ count)
    (elsewhere : ∀ edit ∈ edits, edit.number ≠ origin) :
    some origin ∉ origins edits (numbered count) ↔
      Overruns edits count origin := by
  constructor
  · intro lost
    have there : some origin ∈ numbered count := by
      rw [numbered, List.mem_map]
      exact ⟨origin, List.mem_range'_1.mpr (by omega), rfl⟩
    obtain ⟨before, edit, after, split, start, hit⟩ :=
      exists_hit_of_lost there lost
    have wrong : edit.number ≠ origin := elsewhere edit (by simp [split])
    rw [split, Descending, List.pairwise_append] at descending
    -- As long as all edits were of later lines, the edit would find its own
    -- line.
    have reached : ¬ ∀ earlier ∈ before, edit.number < earlier.number := by
      intro later
      have same := getElem?_start
        ((getElem?_origins_of_lt fun earlier member => by
          have := later earlier member
          omega).symm.trans hit)
      omega
    rcases List.eq_nil_or_concat before with none | ⟨front, first, last⟩
    · exact absurd (by simp [none]) reached
    · rw [List.concat_eq_append] at last
      subst last
      have ordered := (List.pairwise_append.mp descending.1).2.2
      have follows := descending.2.2 first (by simp) edit List.mem_cons_self
      have same : first.number = edit.number := by
        by_contra different
        apply reached
        intro earlier member
        rcases List.mem_append.mp member with inFront | isFirst
        · have := ordered earlier inFront first List.mem_cons_self
          omega
        · cases List.mem_singleton.mp isFirst
          omega
      rw [origins, replay_append, replay_cons, replay_nil, ← origins,
        ← same] at hit
      obtain ⟨removed, behind⟩ := moved_up (started first (by simp [split])) hit
      exact ⟨front, first, edit, after, by simp [split], same, removed, behind⟩
  · rintro ⟨before, first, second, after, split, same, removed, behind⟩ kept
    have start : first.number ≠ 0 := started first (by simp [split])
    have unique : ((origins before (numbered count)).filterMap id).Nodup :=
      origins_nodup (by simpa [numbered] using List.nodup_range')
    rw [split, origins, replay_append, replay_cons, replay_cons, ← origins,
      ← origins] at kept
    refine lost_of_hit (splice_nodup unique) (same ▸ start) ?_
      (mem_of_mem_origins kept)
    obtain ⟨bound, here⟩ := List.getElem?_eq_some_iff.mp behind
    have front : (List.take (first.number - 1)
        (origins before (numbered count))).length = first.number - 1 := by
      rw [List.length_take]
      omega
    rw [removed, ← same, splice_of_inside start (by omega), List.map_nil,
      List.append_nil, List.getElem?_append_right (by omega), front,
      Nat.sub_self, List.getElem?_drop]
    exact behind

/-! ## Lines that are kept -/

/-- The lines whose numbers are not among the given ones. -/
def linesBut (numbers : List Nat) (lines : List Line) : List Line :=
  ((lines.zipIdx 1).filter fun (_, number) =>
    !numbers.contains number).map Prod.fst

private def keepsNumber (numbers : List Nat) (traced : Traced) : Bool :=
  (traced.origin.map fun number => !numbers.contains number).getD false

private theorem filter_replay_sublist (numbers : List Nat) (edits : List Edit)
    (list : List Traced) :
    ((replay Traced.written edits list).filter (keepsNumber numbers)).Sublist
      (list.filter (keepsNumber numbers)) := by
  induction edits generalizing list with
  | nil => exact List.Sublist.refl _
  | cons edit edits induction =>
      apply (induction _).trans
      simp only [splice]
      split
      · exact List.Sublist.refl _
      · have nothing : (edit.lines.map Traced.written).filter
            (keepsNumber numbers) = [] := by
          simp [keepsNumber, Traced.written]
        rw [List.filter_append, List.filter_append, nothing, List.append_nil,
          ← List.filter_append]
        have fewer :
            (list.take (edit.number - 1) ++ list.drop edit.number).Sublist
            (list.take (edit.number - 1) ++ list.drop (edit.number - 1)) :=
          List.Sublist.append_left (List.drop_sublist_drop_left _ (by omega)) _
        rw [List.take_append_drop] at fewer
        exact fewer.filter _

theorem mem_ofLines {lines : List Line} {traced : Traced} :
    traced ∈ Traced.ofLines lines ↔
      ∃ number, traced.origin = some number ∧ 1 ≤ number ∧
        lines[number - 1]? = some traced.line := by
  obtain ⟨line, origin⟩ := traced
  simp only [Traced.ofLines, List.mem_map, Prod.exists, Traced.mk.injEq,
    List.mk_mem_zipIdx_iff_le_and_getElem?_sub]
  constructor
  · rintro ⟨there, number, ⟨inside, found⟩, rfl, rfl⟩
    exact ⟨number, rfl, inside, found⟩
  · rintro ⟨number, rfl, inside, found⟩
    exact ⟨line, number, ⟨inside, found⟩, rfl, rfl⟩

theorem line_of_mem_trace {lines : List Line} {traced : Traced}
    (member : traced ∈ trace edits lines) (number : Nat)
    (origin : traced.origin = some number) :
    lines[number - 1]? = some traced.line := by
  have keeps : keepsNumber [] traced = true := by simp [keepsNumber, origin]
  have start := (filter_replay_sublist [] edits (Traced.ofLines lines)).subset
    (List.mem_filter.mpr ⟨member, keeps⟩)
  obtain ⟨other, same, -, found⟩ := mem_ofLines.mp (List.mem_filter.mp start).1
  rw [origin] at same
  cases same
  exact found

private theorem ofLines_nodup (lines : List Line) :
    (Traced.ofLines lines).Nodup := by
  apply List.Nodup.of_map Traced.origin
  have same := map_origin_trace [] lines
  rw [trace, replay_nil] at same
  rw [same]
  exact List.Nodup.map (fun _ _ => Option.some.inj) List.nodup_range'

/-- Lines that keep their origins are still there, in their order. -/
theorem linesBut_sublist {numbers : List Nat} {lines : List Line}
    (kept : ∀ number, 1 ≤ number ∧ number ≤ lines.length → number ∉ numbers →
      some number ∈ (trace edits lines).map Traced.origin) :
    (linesBut numbers lines).Sublist ((trace edits lines).map Traced.line) := by
  have start : linesBut numbers lines =
      ((Traced.ofLines lines).filter (keepsNumber numbers)).map
      Traced.line := by
    rw [linesBut, Traced.ofLines, List.filter_map, List.map_map]
    rfl
  have fewer := filter_replay_sublist numbers edits (Traced.ofLines lines)
  have all : (Traced.ofLines lines).filter (keepsNumber numbers) ⊆
      (trace edits lines).filter (keepsNumber numbers) := by
    intro traced member
    obtain ⟨there, keeps⟩ := List.mem_filter.mp member
    obtain ⟨number, origin, inside, found⟩ := mem_ofLines.mp there
    have bound := (List.getElem?_eq_some_iff.mp found).1
    have other : number ∉ numbers := by simpa [keepsNumber, origin] using keeps
    obtain ⟨same, member, sameOrigin⟩ :=
      List.mem_map.mp (kept number (by omega) other)
    have keepsSame : keepsNumber numbers same = true := by
      simpa [keepsNumber, sameOrigin]
    have sameMember := List.mem_filter.mpr ⟨member, keepsSame⟩
    -- The number tells which line it is.
    have again := line_of_mem_trace member number sameOrigin
    have equal : same = traced := by
      obtain ⟨line, _⟩ := same
      obtain ⟨otherLine, _⟩ := traced
      simp only at origin sameOrigin found again
      subst origin sameOrigin
      rw [found] at again
      cases again
      rfl
    exact equal ▸ sameMember
  have length :=
    (List.subperm_of_subset ((ofLines_nodup lines).filter _) all).length_le
  rw [start, ← fewer.eq_of_length_le length]
  exact List.Sublist.map _ List.filter_sublist

end Edit

end LintMend
