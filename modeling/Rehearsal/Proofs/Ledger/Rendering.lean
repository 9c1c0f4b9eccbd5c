import Rehearsal.Form
import Rehearsal.Proofs.Ledger.Record
import Rehearsal.Proofs.Text.Lines

/-!
A report as text.

Every event but the banners is printed as a piece of text of its own, in order, and each piece ends
with a line feed.  What has been logged is printed as it is, but for the ends of its lines.
-/

namespace Rehearsal

namespace Event

/-- What is printed of an event: its lines, each closed by a line feed. -/
def chunk (event : Event) : String :=
  String.join (event.shown.map (· ++ "\n"))

variable {text : String} {level : LogLevel} {event : Event}

theorem logLines_of_ne (full : text ≠ "") : logLines text = Text.lines text := by
  simp [logLines, full]

theorem logLines_ne_nil (text : String) : logLines text ≠ [] := by
  by_cases empty : text = ""
  · rw [empty]
    exact List.cons_ne_nil _ _
  · rw [logLines_of_ne empty, Text.lines, ne_eq, List.map_eq_nil_iff]
    exact Text.closeLines_ne_nil (mt String.toList_eq_nil_iff.mp empty)

theorem not_mem_logLines (text : String) : ∀ line ∈ logLines text, '\n' ∉ line.toList := by
  by_cases empty : text = ""
  · rw [empty]
    decide
  · intro line membership
    rw [logLines_of_ne empty] at membership
    have within := List.mem_map_of_mem (f := String.toList) membership
    rw [Text.map_toList_lines] at within
    exact Text.not_mem_closeLines text.toList line.toList within

/-- The empty text is no exception: the line feed that it lacks is printed. -/
theorem toList_join_logLines (text : String) :
    (String.join ((logLines text).map (· ++ "\n"))).toList =
      Text.closed (Text.normalized text.toList) := by
  rw [Text.toList_join_lines]
  by_cases empty : text = ""
  · rw [empty]
    rfl
  · rw [logLines_of_ne empty, Text.map_toList_lines,
      Text.printed_lines (mt String.toList_eq_nil_iff.mp empty)]

theorem shown_ne_nil (kept : event.isBanner = false) : event.shown ≠ [] := by
  cases event with
  | banner => cases kept
  | log level text =>
      cases level with
      | infoBar => exact List.cons_ne_nil _ _
      | info | warning | error => exact logLines_ne_nil text
  | passed | failed | timedOut | captured | done => exact List.cons_ne_nil _ _

theorem getLast?_chunk (kept : event.isBanner = false) : event.chunk.toList.getLast? = some '\n' :=
  Text.getLast?_join_lines (shown_ne_nil kept)

theorem chunk_of_isBanner (banner : event.isBanner = true) : event.chunk = "" := by
  cases event with
  | banner => rfl
  | passed | failed | timedOut | log | captured | done => cases banner

theorem chunk_log (plain : level ≠ .infoBar) (text : String) :
    (log level text).chunk = String.join ((logLines text).map (· ++ "\n")) := by
  cases level with
  | infoBar => exact (plain rfl).elim
  | info | warning | error => rfl

theorem chunk_done (passes failures timeouts : Nat) :
    (done passes failures timeouts).chunk =
      toString passes ++ " passed, " ++ toString failures ++ " failed, " ++ toString timeouts ++
        " timed out\n" := by
  have words : " timed out\n" = " timed out" ++ "\n" := rfl
  rw [words, ← String.append_assoc, chunk, shown, List.map_singleton, String.join_cons]
  exact String.append_empty

/-- What has been logged is printed as it is, but for the ends of its lines. -/
structure LogPrinted (text chunk : String) : Prop where
  /-- There is at least one line, though there be nothing in it. -/
  lines : ∃ lines : List String, lines ≠ [] ∧ (text ≠ "" → lines = Text.lines text) ∧
    (∀ line ∈ lines, '\n' ∉ line.toList) ∧ chunk = String.join (lines.map (· ++ "\n"))
  normalized : chunk.toList = Text.closed (Text.normalized text.toList)
  unchanged : Text.contains text "\r\n" = false → text.toList.getLast? ≠ some '\n' →
    chunk = text ++ "\n"

theorem log_printed (plain : level ≠ .infoBar) (text : String) :
    LogPrinted text (log level text).chunk where
  lines := ⟨logLines text, logLines_ne_nil text, logLines_of_ne, not_mem_logLines text,
    chunk_log plain text⟩
  normalized := by rw [chunk_log plain, toList_join_logLines]
  unchanged := by
    intro single unclosed
    have absent : ¬"\r\n".toList <:+: text.toList :=
      mt Text.contains_iff.mpr (Bool.eq_false_iff.mp single)
    rw [← String.toList_inj, chunk_log plain, toList_join_logLines,
      Text.normalized_eq_self absent, Text.closed, if_neg unclosed, String.toList_append]
    rfl

end Event

namespace Report

theorem text_eq_join_chunks (report : Report) :
    report.text = String.join (report.events.map Event.chunk) := by
  rw [text]
  generalize report.events = events
  induction events with
  | nil => rfl
  | cons event rest inductionHypothesis =>
      rw [List.flatMap_cons, List.map_append, String.join_append, inductionHypothesis,
        List.map_cons, String.join_cons]
      rfl

theorem text_eq_join_filter (report : Report) :
    report.text =
      String.join ((report.events.filter fun event => !event.isBanner).map Event.chunk) := by
  rw [text_eq_join_chunks]
  generalize report.events = events
  induction events with
  | nil => rfl
  | cons event rest inductionHypothesis =>
      cases banner : event.isBanner with
      | false => simp [banner, inductionHypothesis]
      | true => simp [banner, inductionHypothesis, Event.chunk_of_isBanner banner]

end Report

/-- Nothing is lost when a report is printed. -/
structure Report.Linewise (report : Report) : Prop where
  chunks : report.text =
    String.join ((report.events.filter fun event => !event.isBanner).map Event.chunk)
  banner : ∀ scenario, (Event.banner scenario).chunk = ""
  closed : ∀ event ∈ report.events, event.isBanner = false →
    event.chunk ≠ "" ∧ event.chunk.toList.getLast? = some '\n'
  /-- Banners may come and go. -/
  bannerless : ∀ entries : List Entry,
    (entries.filter fun entry => !entry.event.isBanner) =
        (report.entries.filter fun entry => !entry.event.isBanner) →
      { report with entries }.text = report.text
  logged : ∀ level text, .log level text ∈ report.events → level ≠ .infoBar →
    Event.LogPrinted text (Event.log level text).chunk
  /-- At the end of a finished report its own counts are printed. -/
  finished : ∀ (ledger : Ledger) time, report = ledger.finish time →
    ∃ before, report.events = before ++ [.done report.passed report.failed report.timedOut] ∧
      report.text = String.join (before.map Event.chunk) ++
        (toString report.passed ++ " passed, " ++ toString report.failed ++ " failed, " ++
          toString report.timedOut ++ " timed out\n")

theorem Report.text_linewise (report : Report) : report.Linewise where
  chunks := report.text_eq_join_filter
  banner _ := rfl
  closed := by
    intro event _ kept
    have last := Event.getLast?_chunk kept
    refine ⟨?_, last⟩
    intro nothing
    rw [nothing] at last
    cases last
  bannerless := by
    intro entries same
    simp only [text_eq_join_filter, events, List.filter_map, Function.comp_def, same]
  logged _ text _ plain := Event.log_printed plain text
  finished := by
    rintro ledger time rfl
    have events : (ledger.finish time).events = ledger.events.toList ++
        [.done (ledger.finish time).passed (ledger.finish time).failed
          (ledger.finish time).timedOut] := by
      rw [Ledger.finish, Ledger.events_report, Ledger.close_eq_record, Ledger.events_record,
        Array.toList_push]
      rfl
    refine ⟨ledger.events.toList, events, ?_⟩
    rw [text_eq_join_chunks, events, List.map_append, String.join_append, ← Event.chunk_done,
      List.map_singleton, String.join_cons]
    congr 1
    exact String.append_empty

/-- The lines of a form are printed one below the other, and an empty text as an empty line. -/
example :
    (Event.log .info (FormData.ofList [("name", "Ann"), ("town", "Ulm")]).listing).chunk =
        "\tname: Ann\n\ttown: Ulm\n" ∧
      (Event.log .info "").chunk = "\n" := by decide +kernel

end Rehearsal
