import FleetControl.Proofs.Effect.Independence
import FleetControl.Proofs.JobStore.Finish
import FleetControl.Proofs.Text.Blank

/-!
# Logs

A report appends to the log of its job and to no other: the last lines of its texts, as many as
are kept, and at most one line about the report itself.  The texts are those of the fields of the
report in their order.  They are cut into lines together, so what is kept of one text depends on
those behind it.

No line is blank or has blanks around it, and no progress is above a hundred.
-/

namespace FleetControl

open Refusal
open Text
open Time

namespace Report

/-!
# What texts say
-/

def itemTexts : Json → List String
  | .text s => [s]
  | .object fields =>
      match fields.lookup "message" with
      | some (.text s) => [s]
      | _ => []
  | _ => []

def texts (value : Value) : List String :=
  match value.document with
  | .text s => [s]
  | .array items => items.flatMap itemTexts
  | _ => []

def content (s : String) : List String :=
  (contentLines s.toList).map String.ofList

def progressTexts (report : LogReport) : List String :=
  report.stdout.toList ++ report.stderr.toList ++ report.logs.toList.flatMap texts

def resultTexts (output : Members) : List String :=
  ["stdout", "stderr", "logs", "log"].flatMap (fun key => (output.get? key).toList.flatMap texts)

theorem itemText?_toList (item : Json) : (itemText? item).toList = itemTexts item := by
  cases item with
  | object fields =>
      dsimp only [itemText?, itemTexts]
      cases fields.lookup "message" with
      | none => rfl
      | some message => cases message <;> rfl
  | _ => rfl

theorem collectLines_eq (all : List String) (cap : Nat) :
    collectLines all cap = (all.flatMap content).rtake cap := by
  have lines : (all.flatMap (fun s => (lineChars s.toList).map trimChars)).filter
      (fun line => !line.isEmpty) = all.flatMap (fun s => contentLines s.toList) := by
    rw [List.filter_flatMap]
    exact congrArg (fun f => all.flatMap f) (funext fun s => contentLines_eq s.toList)
  rw [collectLines, lines, List.map_flatMap]
  rfl

/-- The texts of a list are put together, and their lines are found again. -/
theorem content_valueText (value : Value) :
    (valueText? value).toList.flatMap content = (texts value).flatMap content := by
  unfold valueText? texts
  cases value.document with
  | array items =>
      have newline : "\n".toList = ['\n'] := rfl
      dsimp only
      rw [← funext itemText?_toList, ← List.filterMap_eq_flatMap_toList, Option.toList_some,
        List.flatMap_singleton, content, joined, String.toList_intercalate, newline,
        contentLines_intercalate, List.map_flatMap, List.flatMap_map]
      rfl
  | _ => rfl

theorem content_field (field : Option Value) :
    (field.bind valueText?).toList.flatMap content =
      (field.toList.flatMap texts).flatMap content := by
  cases field with
  | none => rfl
  | some value =>
      rw [Option.bind_some, content_valueText, Option.toList_some, List.flatMap_singleton]

theorem logLines_eq (report : LogReport) (cap : Nat) :
    logLines report cap = ((progressTexts report).flatMap content).rtake cap := by
  rw [logLines, collectLines_eq, progressTexts, List.flatMap_append, content_field,
    ← List.flatMap_append]

theorem outputLines_eq (output : Members) (cap : Nat) :
    outputLines output cap = ((resultTexts output).flatMap content).rtake cap := by
  rw [outputLines, collectLines_eq, resultTexts, List.filterMap_eq_flatMap_toList,
    List.flatMap_assoc, List.flatMap_assoc]
  simp only [content_field]

/-!
# Clean lines
-/

structure IsClean (message : String) : Prop where
  some_ : message ≠ ""
  trimmed : trim message = message

theorem of_mem_content {s message : String} (h : message ∈ content s) :
    IsClean message ∧ '\n' ∉ message.toList := by
  rcases List.mem_map.mp h with ⟨line, hline, rfl⟩
  rcases of_mem_contentLines hline with ⟨some_, trimmed, single⟩
  rw [String.toList_ofList]
  refine ⟨⟨?_, ?_⟩, single⟩
  · simpa using some_
  · rw [trim, String.toList_ofList, trimmed]

theorem isClean_of_ends (first last : Char) (middle : List Char) {message : String}
    (plain : isBlank first = false) (plain' : isBlank last = false)
    (written : message.toList = first :: middle ++ [last]) : IsClean message := by
  constructor
  · rintro rfl
    cases written
  · rw [trim, written, trimChars_of_ends plain plain', ← written, String.ofList_toList]

theorem isClean_of_headLine {report : LogReport} {message : String} {progress : Option UInt8}
    (h : headLine? report = some (message, progress)) : IsClean message := by
  unfold headLine? at h
  dsimp only at h
  split at h
  · rename_i written given
    cases h
    rcases Option.filter_eq_some_iff.mp given with ⟨mapped, some_⟩
    rcases Option.map_eq_some_iff.mp mapped with ⟨sent, _, rfl⟩
    exact ⟨by simpa using some_, trim_trim sent⟩
  · rename_i p _ _
    cases h
    refine isClean_of_ends 'p' '%' ("rogress ".toList ++ (Error.natText p.toNat).toList)
      (by decide) (by decide) ?_
    simp [String.toList_append]
  · cases h

theorem isClean_finished (status : Job.Status) : IsClean ("finished: " ++ status.word) := by
  cases status <;> exact ⟨by decide, by decide +kernel⟩

end Report

namespace State

variable {s m s' : State} {id agentId : String} {now : Instant} {lines more : List Job.LogLine}

/-!
# What is appended
-/

structure Appends (id : String) (lines : List Job.LogLine) (s s' : State) : Prop where
  own : s'.logLines id = s.logLines id ++ lines
  others : ∀ other, other ≠ id → s'.logs.get? other = s.logs.get? other

theorem Appends.of_same (h : s'.logs = s.logs) : Appends id [] s s' where
  own := by rw [logLines, h, List.append_nil, logLines]
  others := by simp [h]

theorem Appends.trans (h : Appends id lines s m) (h' : Appends id more m s') :
    Appends id (lines ++ more) s s' where
  own := by rw [h'.own, h.own, List.append_assoc]
  others := fun other apart => (h'.others other apart).trans (h.others other apart)

theorem appends_appendLog (s : State) (id message : String) (progress : Option UInt8)
    (now : Instant) :
    Appends id [logLine id message progress now] s (s.appendLog id message progress now) where
  own := by simp [logLines, appendLog, logLine]
  others := fun other apart => by simp [appendLog, apart]

theorem appends_appendLogs (s : State) (id : String) (messages : List String) (now : Instant) :
    Appends id (messages.map (fun message => logLine id message none now)) s
      (s.appendLogs id messages now) := by
  induction messages generalizing s with
  | nil => exact .of_same rfl
  | cons message rest ih => exact (s.appends_appendLog id message none now).trans (ih _)

/-!
# Reports
-/

theorem appends_finishJob {token : String} {status : Job.Status} {report : ResultReport}
    {cap : Nat} {job : Job} {result : Job.Result}
    (h : s.finishJob id token status report cap now = .ok (job, result, s')) :
    Appends id (finishLines id status report cap now) s s' := by
  unfold finishJob at h
  rcases bind_eq_ok.mp h with ⟨⟨written, s2⟩, hresult, h⟩
  rcases bind_eq_ok.mp h with ⟨⟨previous, s3⟩, hmove, h⟩
  rcases bind_eq_ok.mp h with ⟨⟨released, s4⟩, hunlock, h⟩
  rcases bind_eq_ok.mp h with ⟨found, _, h⟩
  cases pure_eq_ok.mp h
  have output := s.appends_appendLogs id (Report.outputLines report.output cap) now
  have same : s4.logs = (s.appendLogs id (Report.outputLines report.output cap) now).logs :=
    logs_of_besidesRows ((besidesRows_unlockJob hunlock).trans
      ((besidesRows_transition hmove).trans (besidesRows_recordResult hresult)))
  have last := s4.appends_appendLog id ("finished: " ++ status.word) (some 100) now
  have all := (output.trans (.of_same same)).trans last
  rwa [List.append_nil] at all

/-- The lines that are kept of texts: the last ones. -/
def keptLines (id : String) (all : List String) (cap : Nat) (now : Instant) :
    List Job.LogLine :=
  ((all.flatMap Report.content).rtake cap).map (fun message => logLine id message none now)

theorem finishLines_eq (id : String) (status : Job.Status) (report : ResultReport) (cap : Nat)
    (now : Instant) :
    finishLines id status report cap now =
      keptLines id (Report.resultTexts report.output) cap now ++
        [logLine id ("finished: " ++ status.word) (some 100) now] := by
  rw [finishLines, Report.outputLines_eq, keptLines]

theorem appends_submitResult {fresh : Fresh} {report : ResultReport} {policy : ReportPolicy}
    {reported : Reported}
    (h : s.submitResult fresh agentId id report policy now = .ok (reported, s')) :
    ∃ status, Job.Status.reported? report.status = some status ∧
      Appends id (keptLines id (Report.resultTexts report.output) policy.maxLogLines now ++
        [logLine id ("finished: " ++ status.word) (some 100) now]) s s' := by
  rcases submitResult_eq_ok h with ⟨token, status, job, result, m, _, told, finish, rfl⟩
  have events := m.extends_applyEvents fresh policy.thresholds now
    (eventsOf policy.registry job result)
  have all := (appends_finishJob finish).trans (.of_same events.logs)
  rw [List.append_nil, finishLines_eq] at all
  exact ⟨status, told, all⟩

/-- The line about the report itself: its message, or else its progress, if it has either. -/
def headLines (id : String) (report : LogReport) (now : Instant) : List Job.LogLine :=
  let message := trim (report.message.getD "")
  let progress := report.progress.map (fun sent => UInt8.ofNat (min sent 100).toNat)
  if message ≠ "" then [logLine id message progress now]
  else progress.toList.map (fun p =>
    logLine id ("progress " ++ Error.natText p.toNat ++ "%") (some p) now)

theorem headLines_eq (id : String) (report : LogReport) (now : Instant) :
    headLines id report now =
      (Report.headLine? report).toList.map (fun head => logLine id head.1 head.2 now) := by
  have percent : (fun sent : Int => UInt8.ofNat (min sent 100).toNat) = Report.percent := rfl
  unfold headLines Report.headLine?
  dsimp only
  rw [percent]
  cases report.message with
  | none =>
      cases report.progress <;> rfl
  | some message =>
      by_cases blank : trim message = ""
      · simp only [Option.getD_some, blank, Option.map_some]
        cases report.progress <;> rfl
      · have shown : (some (trim message)).filter (fun m => !m.isEmpty) = some (trim message) := by
          simp [blank]
        rw [Option.getD_some, if_pos blank, Option.map_some, shown]
        rfl

theorem appends_submitLogs {report : LogReport} {policy : ReportPolicy} {expires : Instant}
    (h : s.submitLogs agentId id report policy now = .ok (expires, s')) :
    Appends id (headLines id report now ++
      keptLines id (Report.progressTexts report) policy.maxLogLines now) s s' := by
  unfold submitLogs at h
  rcases bind_eq_ok.mp h with ⟨_, _, h⟩
  rcases bind_eq_ok.mp h with ⟨token, _, h⟩
  rcases bind_eq_ok.mp h with ⟨_, _, h⟩
  rcases bind_eq_ok.mp h with ⟨⟨extended, s1⟩, hextend, h⟩
  cases pure_eq_ok.mp h
  rw [Report.logLines_eq, headLines_eq]
  have same : Appends id [] s s1 := .of_same (logs_of_besidesRows (besidesRows_extendLock hextend))
  cases Report.headLine? report with
  | none => exact same.trans (s1.appends_appendLogs id _ now)
  | some head =>
      exact (same.trans (s1.appends_appendLog id head.1 head.2 now)).trans
        (appends_appendLogs _ id _ now)

/-!
# Lines that are in order
-/

structure IsSound (line : Job.LogLine) : Prop where
  message : Report.IsClean line.message
  progress : ∀ p, line.progress = some p → p ≤ 100

theorem isSound_logLine {message : String} (clean : Report.IsClean message)
    (progress : Option UInt8) : IsSound (logLine id message progress now) where
  message := clean
  progress := by
    intro p given
    rcases Option.map_eq_some_iff.mp given with ⟨sent, _, rfl⟩
    show (if sent ≤ 100 then sent else 100) ≤ 100
    split
    · assumption
    · exact UInt8.le_refl 100

theorem isSound_of_mem_keptLines {all : List String} {cap : Nat} {line : Job.LogLine}
    (h : line ∈ keptLines id all cap now) : IsSound line ∧ '\n' ∉ line.message.toList := by
  rcases List.mem_map.mp h with ⟨message, kept, rfl⟩
  rcases List.mem_flatMap.mp (List.mem_of_mem_drop kept) with ⟨text, _, mem⟩
  rcases Report.of_mem_content mem with ⟨clean, single⟩
  exact ⟨isSound_logLine clean none, single⟩

theorem isSound_of_mem_headLines {report : LogReport} {line : Job.LogLine}
    (h : line ∈ headLines id report now) : IsSound line := by
  rw [headLines_eq] at h
  rcases List.mem_map.mp h with ⟨⟨message, progress⟩, head, rfl⟩
  exact isSound_logLine (Report.isClean_of_headLine (Option.mem_toList.mp head)) progress

theorem length_keptLines_le (id : String) (all : List String) (cap : Nat) (now : Instant) :
    (keptLines id all cap now).length ≤ cap := by
  rw [keptLines, List.length_map, List.rtake, List.length_drop]
  omega

theorem length_headLines_le (id : String) (report : LogReport) (now : Instant) :
    (headLines id report now).length ≤ 1 := by
  rw [headLines_eq, List.length_map]
  cases Report.headLine? report <;> simp

/-!
# What a report leaves behind
-/

/-- The last lines of the texts are appended, and at most one line with them; nothing else
happens to the logs. -/
structure Keeps (id : String) (cap : Nat) (now : Instant) (all : List String)
    (front back : List Job.LogLine) (s s' : State) : Prop where
  appends : Appends id (front ++ keptLines id all cap now ++ back) s s'
  alone : front.length + back.length ≤ 1
  few : (front ++ keptLines id all cap now ++ back).length ≤ cap + 1
  sound : ∀ line ∈ front ++ keptLines id all cap now ++ back, IsSound line
  single : ∀ line ∈ keptLines id all cap now, '\n' ∉ line.message.toList

theorem keeps_of_appends {cap : Nat} {all : List String} {front back : List Job.LogLine}
    (appends : Appends id (front ++ keptLines id all cap now ++ back) s s')
    (alone : front.length + back.length ≤ 1) (sound : ∀ line ∈ front ++ back, IsSound line) :
    Keeps id cap now all front back s s' where
  appends := appends
  alone := alone
  few := by
    have kept := length_keptLines_le id all cap now
    rw [List.length_append, List.length_append]
    omega
  sound := by
    simp only [List.mem_append] at sound ⊢
    rintro line ((hfront | kept) | hback)
    · exact sound line (Or.inl hfront)
    · exact (isSound_of_mem_keptLines kept).1
    · exact sound line (Or.inr hback)
  single := fun line kept => (isSound_of_mem_keptLines kept).2

/-- Logs are only ever appended to, by the last lines of what a report says.  A report of progress
has a line about itself in front of them, and a result has one behind them. -/
theorem keeps_of_reports (s : State) (fresh : Fresh) (agentId id : String)
    (policy : ReportPolicy) (now : Instant) :
    (∀ report expires s', s.submitLogs agentId id report policy now = .ok (expires, s') →
      Keeps id policy.maxLogLines now (Report.progressTexts report) (headLines id report now) []
        s s') ∧
    ∀ report reported s',
      s.submitResult fresh agentId id report policy now = .ok (reported, s') →
      ∃ status, Job.Status.reported? report.status = some status ∧
        Keeps id policy.maxLogLines now (Report.resultTexts report.output) []
          [logLine id ("finished: " ++ status.word) (some 100) now] s s' := by
  constructor
  · intro report expires s' h
    refine keeps_of_appends ?_ ?_ ?_
    · rw [List.append_nil]
      exact appends_submitLogs h
    · rw [List.length_nil, Nat.add_zero]
      exact length_headLines_le id report now
    · rw [List.append_nil]
      exact fun line => isSound_of_mem_headLines
  · intro report reported s' h
    rcases appends_submitResult h with ⟨status, told, appends⟩
    refine ⟨status, told, keeps_of_appends appends (Nat.le_refl 1) ?_⟩
    exact List.forall_mem_singleton.mpr (isSound_logLine (Report.isClean_finished status) _)

end State

namespace Plane

/-!
# A report with blanks and carriage returns
-/

def chattyReport : LogReport :=
  { jobId := "b|", progress := some 250, message := none, stdout := some " one \r\n\r\n\ttwo"
    stderr := none, logs := none, lockToken := none }

def chattyResult : ResultReport :=
  { heldResult with output := Table.empty.insert "log" (.text "three\n\n") }

theorem keeps_of_reports_chatty :
    (Report.progressTexts chattyReport).flatMap Report.content = ["one", "two"] ∧
    (∃ expires s', (lostPlane.after heldRun).state.submitLogs "a" "b|" chattyReport
        lostPlane.reportPolicy .epoch = .ok (expires, s') ∧
      State.Keeps "b|" lostPlane.reportPolicy.maxLogLines .epoch
        (Report.progressTexts chattyReport) [State.logLine "b|" "progress 100%" (some 100) .epoch]
        [] (lostPlane.after heldRun).state s') ∧
    ∃ reported s', (lostPlane.after heldRun).state.submitResult (.strokes 'd') "a" "b|"
        chattyResult lostPlane.reportPolicy .epoch = .ok (reported, s') ∧
      State.Keeps "b|" lostPlane.reportPolicy.maxLogLines .epoch
        (Report.resultTexts chattyResult.output) []
        [State.logLine "b|" "finished: succeeded" (some 100) .epoch]
        (lostPlane.after heldRun).state s' := by
  rcases State.keeps_of_reports (lostPlane.after heldRun).state (.strokes 'd') "a" "b|"
    lostPlane.reportPolicy .epoch with ⟨logs, results⟩
  have accepted : ((lostPlane.after heldRun).state.submitLogs "a" "b|" chattyReport
      lostPlane.reportPolicy .epoch).toOption.isSome = true := by
    decide +kernel
  have taken : ((lostPlane.after heldRun).state.submitResult (.strokes 'd') "a" "b|" chattyResult
      lostPlane.reportPolicy .epoch).toOption.isSome = true := by
    decide +kernel
  rcases Option.isSome_iff_exists.mp accepted with ⟨⟨expires, s'⟩, h⟩
  rcases Option.isSome_iff_exists.mp taken with ⟨⟨reported, s''⟩, h'⟩
  have ok := toOption_eq_some.mp h
  have ok' := toOption_eq_some.mp h'
  have keeps := logs _ _ _ ok
  rcases results _ _ _ ok' with ⟨status, told, keeps'⟩
  have succeeded : status = .succeeded :=
    Option.some.inj (told.symm.trans (by decide +kernel))
  rw [succeeded] at keeps'
  exact ⟨by decide +kernel, ⟨expires, s', ok, keeps⟩, reported, s'', ok', keeps'⟩

end Plane
end FleetControl
