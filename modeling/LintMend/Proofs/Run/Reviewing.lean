import LintMend.Proofs.Run.Calls
import LintMend.Proofs.Run.Place

/-!
# What a review sends

A review changes no file, so every request has the content that the file has at
the start of the review. Its findings are those of the queue in this file.
-/

namespace LintMend.Review

/-- The findings of a queue by files, those of a file in their order. -/
structure Grouped (queue : List ClassifiedIssue)
    (groups : List (Path × List ClassifiedIssue)) : Prop where
  apart : (groups.map Prod.fst).Pairwise fun first second =>
    first.same second = false
  found : ∀ group ∈ groups,
    group.2 = queue.filter (fun finding => group.1.same finding.issue.file)
  filled : ∀ group ∈ groups, group.2 ≠ []
  covered : ∀ finding ∈ queue, ∃ path ∈ groups.map Prod.fst,
    path.same finding.issue.file = true

/-- A finding joins the group of its file, or begins one. -/
theorem addToFile_cases (entry : ClassifiedIssue)
    (groups : List (Path × List ClassifiedIssue)) :
    (∃ front path found behind, groups = front ++ (path, found) :: behind ∧
      path.same entry.issue.file = true ∧
      addToFile entry groups = front ++ (path, found ++ [entry]) :: behind) ∨
    (∀ group ∈ groups, group.1.same entry.issue.file = false) ∧
      addToFile entry groups = groups ++ [(entry.issue.file, [entry])] := by
  induction groups with
  | nil => exact .inr ⟨nofun, rfl⟩
  | cons group groups induction =>
      obtain ⟨path, found⟩ := group
      rw [addToFile]
      cases same : path.same entry.issue.file with
      | true => exact .inl ⟨[], path, found, groups, rfl, same, rfl⟩
      | false =>
          rcases induction with
            ⟨front, other, before, behind, rfl, joins, added⟩ | ⟨apart, added⟩
          · exact .inl ⟨(path, found) :: front, other, before, behind, rfl,
              joins, by simp [added]⟩
          · exact .inr ⟨List.forall_mem_cons.mpr ⟨same, apart⟩, by simp [added]⟩

namespace Grouped

variable {queue : List ClassifiedIssue}
  {groups front behind : List (Path × List ClassifiedIssue)} {path : Path}
  {found : List ClassifiedIssue} {entry : ClassifiedIssue}

/-- A finding of another file adds nothing to a group. -/
theorem found_of_apart (grouped : Grouped queue groups)
    {group : Path × List ClassifiedIssue} (member : group ∈ groups)
    (apart : group.1.same entry.issue.file = false) :
    group.2 = (queue ++ [entry]).filter (fun finding =>
      group.1.same finding.issue.file) := by
  simp [grouped.found group member, apart]

/-- What belongs to one group belongs to no other. -/
theorem others_apart
    (grouped : Grouped queue (front ++ (path, found) :: behind))
    (joins : path.same entry.issue.file = true) :
    ∀ group ∈ front ++ behind, group.1.same entry.issue.file = false := by
  intro group member
  rw [Path.same_comm, ← Path.same_congr joins]
  have between := grouped.apart
  rw [List.map_append, List.map_cons, List.pairwise_append, List.pairwise_cons]
    at between
  rcases List.mem_append.mp member with before | after
  · rw [Path.same_comm]
    exact between.2.2 _ (List.mem_map_of_mem before) _ List.mem_cons_self
  · exact between.2.1.1 _ (List.mem_map_of_mem after)

theorem join (grouped : Grouped queue (front ++ (path, found) :: behind))
    (joins : path.same entry.issue.file = true) :
    Grouped (queue ++ [entry])
      (front ++ (path, found ++ [entry]) :: behind) := by
  have paths : (front ++ (path, found ++ [entry]) :: behind).map Prod.fst =
      (front ++ (path, found) :: behind).map Prod.fst := by
    simp
  have cases {group : Path × List ClassifiedIssue}
      (member : group ∈ front ++ (path, found ++ [entry]) :: behind) :
      group = (path, found ++ [entry]) ∨
        group ∈ front ++ (path, found) :: behind ∧
        group.1.same entry.issue.file = false := by
    rcases List.mem_append.mp member with before | last
    · exact .inr ⟨List.mem_append_left _ before,
        grouped.others_apart joins group (List.mem_append_left _ before)⟩
    · rcases List.mem_cons.mp last with here | after
      · exact .inl here
      · exact .inr ⟨List.mem_append_right _ (List.mem_cons_of_mem _ after),
          grouped.others_apart joins group (List.mem_append_right _ after)⟩
  refine ⟨paths ▸ grouped.apart, ?_, ?_, ?_⟩
  · intro group member
    rcases cases member with rfl | ⟨known, apart⟩
    · have here : found = queue.filter (fun finding =>
        path.same finding.issue.file) :=
        grouped.found (path, found) (by simp)
      simp [here, joins]
    · exact grouped.found_of_apart known apart
  · intro group member
    rcases cases member with rfl | ⟨known, -⟩
    · simp
    · exact grouped.filled group known
  · rw [paths]
    intro finding member
    rcases List.mem_append.mp member with before | last
    · exact grouped.covered finding before
    · obtain rfl := List.mem_singleton.mp last
      exact ⟨path, by simp, joins⟩

/-- The file of a finding that joins no group is the file of no finding in front
of it. -/
theorem filter_of_apart (grouped : Grouped queue groups)
    (apart : ∀ group ∈ groups, group.1.same entry.issue.file = false) :
    queue.filter (fun finding =>
      entry.issue.file.same finding.issue.file) = [] := by
  rw [List.filter_eq_nil_iff]
  intro finding inside same
  obtain ⟨path, known, covers⟩ := grouped.covered finding inside
  obtain ⟨group, there, rfl⟩ := List.mem_map.mp known
  have joined := apart group there
  rw [Path.same_congr covers, Path.same_comm, same] at joined
  cases joined

theorem begin (grouped : Grouped queue groups)
    (apart : ∀ group ∈ groups, group.1.same entry.issue.file = false) :
    Grouped (queue ++ [entry]) (groups ++ [(entry.issue.file, [entry])]) := by
  refine ⟨?_, ?_, ?_, ?_⟩
  · rw [List.map_append, List.pairwise_append]
    refine ⟨grouped.apart, by simp, ?_⟩
    intro path member last isLast
    obtain ⟨group, inside, rfl⟩ := List.mem_map.mp member
    obtain rfl := List.mem_singleton.mp isLast
    exact apart group inside
  · intro group member
    rcases List.mem_append.mp member with before | last
    · exact grouped.found_of_apart before (apart group before)
    · obtain rfl := List.mem_singleton.mp last
      simp [grouped.filter_of_apart apart]
  · intro group member
    rcases List.mem_append.mp member with before | last
    · exact grouped.filled group before
    · obtain rfl := List.mem_singleton.mp last
      simp
  · intro finding member
    rcases List.mem_append.mp member with before | last
    · obtain ⟨path, known, covers⟩ := grouped.covered finding before
      exact ⟨path, by simp [known], covers⟩
    · obtain rfl := List.mem_singleton.mp last
      exact ⟨finding.issue.file, by simp, Path.same_self _⟩

theorem add (grouped : Grouped queue groups) (entry : ClassifiedIssue) :
    Grouped (queue ++ [entry]) (addToFile entry groups) := by
  rcases addToFile_cases entry groups with
    ⟨front, path, found, behind, rfl, joins, added⟩ | ⟨apart, added⟩
  · exact added ▸ grouped.join joins
  · exact added ▸ grouped.begin apart

end Grouped

theorem byFile_grouped (queue : List ClassifiedIssue) :
    Grouped queue (byFile queue) := by
  have more (done rest : List ClassifiedIssue)
      (groups : List (Path × List ClassifiedIssue))
      (grouped : Grouped done groups) :
      Grouped (done ++ rest)
        (rest.foldl (fun groups entry => addToFile entry groups) groups) := by
    induction rest generalizing done groups with
    | nil => simpa using grouped
    | cons entry rest induction =>
        have longer := induction (done ++ [entry]) (addToFile entry groups)
          (grouped.add entry)
        rwa [List.append_assoc] at longer
  exact more [] queue [] ⟨.nil, nofun, nofun, nofun⟩

variable {σ : Type} [FileStore σ] [UsageStore σ] [MemoryPlace σ]

open MemoryPlace (files)

/-- A review leaves the files as they are. Each of its requests is on a file of
the queue, with the content of the file and the findings in it. -/
theorem reviewFiles_requests (clock : Clock)
    (groups : List (Path × List ClassifiedIssue)) (helper : Helper)
    (site : Site σ) :
    ∃ requests : List ReviewRequest,
      (reviewFiles clock groups helper site).2.1.assistant.prompts =
        helper.assistant.prompts ++ requests.map ReviewRequest.prompt ∧
      ∀ sent ∈ requests, ∃ group ∈ groups, ∃ content,
        (files site.place).get? group.1 = some content ∧
        sent = request group.1 group.2 content := by
  induction groups generalizing helper site with
  | nil => exact ⟨[], by simp [reviewFiles], by simp⟩
  | cons group groups induction =>
      obtain ⟨path, found⟩ := group
      simp only [reviewFiles]
      split
      · exact ⟨[], by simp, by simp⟩
      · split
        · obtain ⟨requests, prompts, every⟩ := induction helper site
          refine ⟨requests, prompts, fun sent member => ?_⟩
          obtain ⟨other, there, rest⟩ := every sent member
          exact ⟨other, List.mem_cons_of_mem _ there, rest⟩
        · next content read =>
            have same := Run.takeCall_assistant clock helper site.place
            have kept := MemoryPlace.files_takeCall clock helper site.place
            split
            · next taken place refused =>
                rw [refused] at same
                exact ⟨[], by simp [← same], by simp⟩
            · next taken place granted =>
                rw [granted] at same kept
                let asked := taken.assistant.review (request path found content)
                obtain ⟨requests, prompts, every⟩ := induction
                  { taken with assistant := asked.2.2 }
                  { site with place, cancelled := site.cancelled || asked.2.1 }
                refine ⟨request path found content :: requests,
                  prompts.trans ?_, ?_⟩
                · have one : asked.2.2.prompts = helper.assistant.prompts ++
                      [(request path found content).prompt] := by
                    rw [← same]
                    rfl
                  simp [one]
                · intro sent member
                  rcases List.mem_cons.mp member with rfl | later
                  · rw [MemoryPlace.read_files, MemoryFiles.read_eq_ok_iff]
                      at read
                    exact ⟨(path, found), List.mem_cons_self, content,
                      read, rfl⟩
                  · obtain ⟨other, there, text, present, rest⟩ :=
                      every sent later
                    exact ⟨other, List.mem_cons_of_mem _ there, text,
                      kept ▸ present, rest⟩

/-- The requests of a review. -/
theorem run_requests (clock : Clock) (maxFiles : Nat)
    (queue : List ClassifiedIssue) (site : Site σ) :
    ∃ requests : List ReviewRequest,
      (run clock maxFiles queue site).2.prompts =
        site.prompts ++ requests.map ReviewRequest.prompt ∧
      ∀ sent ∈ requests, ∃ found content,
        found = queue.filter (fun finding =>
          sent.file.same finding.issue.file) ∧ found ≠ [] ∧
        (files site.place).get? sent.file = some content ∧
        sent = request sent.file found content := by
  unfold run
  split
  · next none => exact ⟨[], by simp, by simp⟩
  · next helper there =>
      obtain ⟨requests, prompts, every⟩ :=
        reviewFiles_requests clock ((byFile queue).take maxFiles) helper site
      refine ⟨requests, ?_, fun sent member => ?_⟩
      · simpa [Site.prompts, there] using prompts
      · obtain ⟨group, inside, content, present, rfl⟩ := every sent member
        have member := List.mem_of_mem_take inside
        exact ⟨group.2, content, (byFile_grouped queue).found group member,
          (byFile_grouped queue).filled group member, present, rfl⟩

end LintMend.Review
