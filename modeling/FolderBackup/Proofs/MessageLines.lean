import FolderBackup.Proofs.FirstFault
import FolderBackup.Proofs.Lines

/-! The lines of messages.

A heading is written above what it stands over, and what it stands over is indented. Headings over
headings indent again what is indented already, so a line ends up as many levels down as there are
headings over it.

A failure is made of texts, its own and those of its headings (`Failure.texts`), and these may have
lines of their own, empty ones among them. If there are no carriage returns in the texts, the
message has exactly these lines: those of each heading at its depth, then those of the failure's own
message beneath all headings (`Failure.lines_message_beneath`). -/
namespace FolderBackup

/-! ### Texts without carriage returns -/

theorem return_notMem_append {first second : String} (hfirst : '\r' ∉ first.toList)
    (hsecond : '\r' ∉ second.toList) : '\r' ∉ (first ++ second).toList := by
  rw [String.toList_append, List.mem_append, not_or]
  exact ⟨hfirst, hsecond⟩

theorem return_notMem_toDigits {base : Nat} (hbase : 1 < base) (n : Nat) :
    '\r' ∉ Nat.toDigits base n := by
  have hdigit (d : Nat) : '\r' ≠ Nat.digitChar d := by
    by_cases hlarge : 16 ≤ d
    · rw [Nat.digitChar_eq_star.mpr hlarge]
      decide
    · have hsmall : ∀ d < 16, '\r' ≠ Nat.digitChar d := by decide
      exact hsmall d (by omega)
  induction n using Nat.strongRecOn with
  | ind n ih =>
    by_cases hlt : n < base
    · rw [Nat.toDigits_of_lt_base hlt]
      simp [hdigit]
    · rw [Nat.toDigits_of_base_le hbase (by omega), List.mem_append, not_or]
      exact ⟨ih _ (Nat.div_lt_self (by omega) hbase), by simp [hdigit]⟩

theorem return_notMem_repr (n : Nat) : '\r' ∉ n.repr.toList := by
  rw [Nat.repr, String.toList_ofList]
  exact return_notMem_toDigits (by decide) n

theorem return_notMem_intercalate {separator : String} (hseparator : '\r' ∉ separator.toList)
    {texts : List String} (h : ∀ text ∈ texts, '\r' ∉ text.toList) :
    '\r' ∉ (String.intercalate separator texts).toList := by
  induction texts with
  | nil => simp
  | cons text rest ih =>
    rw [List.forall_mem_cons] at h
    by_cases hrest : rest = []
    · simp [hrest, h.1]
    · rw [String.intercalate_cons_of_ne_nil hrest]
      exact return_notMem_append (return_notMem_append h.1 hseparator) (ih h.2)

theorem Text.return_notMem_indent {text : String} (h : '\r' ∉ text.toList) :
    '\r' ∉ (indent text).toList := by
  rw [indent, String.toList_ofList]
  exact return_notMem_indentChars h

/-- A quoted text has no carriage return, whatever the text. -/
theorem Text.return_notMem_quoted (text : String) : '\r' ∉ (quoted text).toList := by
  have hescaped (c : Char) : '\r' ∉ escaped c := by
    by_cases hreturn : c = '\r'
    · subst hreturn
      decide
    · unfold escaped
      repeat' split
      all_goals simp [escapedCode, return_notMem_toDigits, Ne.symm hreturn]
  rw [quoted, String.toList_ofList]
  simp [hescaped]

namespace ExitStatus

theorem return_notMem_signalName {number : Nat} {name : String}
    (h : signalName number = some name) : '\r' ∉ name.toList := by
  obtain ⟨bare, hbare, h⟩ := Option.bind_eq_some_iff.mp h
  have hplain : '\r' ∉ bare.toList := by
    have hmem := List.mem_of_getElem? hbare
    clear hbare h
    revert bare
    decide
  split at h
  · cases h
  · cases h
    exact return_notMem_append (by decide) hplain

theorem return_notMem_signalText (number : Nat) : '\r' ∉ (signalText number).toList := by
  unfold signalText
  apply return_notMem_append (return_notMem_repr number)
  cases hname : signalName number with
  | none => decide
  | some name =>
    exact return_notMem_append
      (return_notMem_append (by decide) (return_notMem_signalName hname)) (by decide)

theorem return_notMem_message (status : ExitStatus) : '\r' ∉ status.message.toList := by
  cases status with
  | code value => exact return_notMem_append (by decide) (return_notMem_repr value)
  | signal number dumped =>
    apply return_notMem_append
    · exact return_notMem_append (by decide) (return_notMem_signalText number)
    · cases dumped <;> decide
  | stopped number => exact return_notMem_append (by decide) (return_notMem_signalText number)
  | continued => decide
  | unknown word =>
    have hword : '\r' ∉ (toString word).toList := by
      cases word with
      | ofNat n => exact return_notMem_repr n
      | negSucc n => exact return_notMem_append (by decide) (return_notMem_repr _)
    apply return_notMem_append
    · exact return_notMem_append (return_notMem_append (by decide) hword) (by decide)
    · rw [String.toList_ofList]
      exact return_notMem_toDigits (by decide) _

end ExitStatus

/-! ### Texts of failures -/

/-- The texts that a heading is made of. -/
def Heading.texts : Heading → List String
  | .message text => [text]
  | .subject shown activity => [shown, activity]

theorem Heading.return_notMem_line {heading : Heading}
    (h : ∀ text ∈ heading.texts, '\r' ∉ text.toList) : '\r' ∉ heading.line.toList := by
  cases heading with
  | message text => exact return_notMem_append (h text (by simp [texts])) (by decide)
  | subject shown activity =>
    have hshown := h shown (by simp [texts])
    have hactivity := h activity (by simp [texts])
    exact return_notMem_append
      (return_notMem_append (return_notMem_append hshown (by decide)) hactivity) (by decide)

/-- A heading ends in a colon, so all that is between its line feeds are lines. -/
theorem Heading.lines_line {heading : Heading}
    (h : ∀ text ∈ heading.texts, '\r' ∉ text.toList) :
    Text.lines heading.line.toList = heading.line.toList.splitOn '\n' := by
  have hcolon : ∃ before, heading.line.toList = before ++ [':'] := by
    cases heading with
    | message text => exact ⟨text.toList, String.toList_append⟩
    | subject shown activity =>
      refine ⟨(shown ++ " " ++ activity ++ " failed").toList, ?_⟩
      rw [← String.toList_singleton, ← String.toList_append, String.append_assoc]
      rfl
  obtain ⟨before, hbefore⟩ := hcolon
  apply Text.lines_eq_splitOn (return_notMem_line h)
  · simp [hbefore]
  · simp [hbefore, Text.ending]

namespace Failure

mutual

/-- The texts that a failure is made of, those of its headings among them. -/
def texts : Failure → List String
  | .system text => [text]
  | .violations found => [Violation.messages found]
  | .document problem => [problem.message]
  | .unreadable text => [text]
  | .misconfigured fault => [fault.message]
  | .unknownKind kind => [kind]
  | .noReverse kind => [kind]
  | .commandFailed command _ complaint => [command, complaint]
  | .within heading inner => heading.texts ++ inner.texts
  | .several failures => textsOf failures

def textsOf : List Failure → List String
  | [] => []
  | failure :: rest => failure.texts ++ textsOf rest

end

mutual

/-- What a message adds to the texts of the failure has no carriage returns. -/
theorem return_notMem_message {failure : Failure}
    (h : ∀ text ∈ failure.texts, '\r' ∉ text.toList) : '\r' ∉ failure.message.toList := by
  cases failure with
  | system text | violations found | document problem | unreadable text =>
    exact h _ List.mem_cons_self
  | misconfigured fault => exact return_notMem_append (by decide) (h _ List.mem_cons_self)
  | unknownKind kind => exact return_notMem_append (by decide) (Text.return_notMem_quoted kind)
  | noReverse kind =>
    exact return_notMem_append
      (return_notMem_append (by decide) (Text.return_notMem_quoted kind)) (by decide)
  | commandFailed command status complaint =>
    have hcomplaint := h complaint (List.mem_cons_of_mem _ List.mem_cons_self)
    have hstatus := status.return_notMem_message
    refine return_notMem_append (return_notMem_append (return_notMem_append
      (return_notMem_append (return_notMem_append (by decide) (Text.return_notMem_quoted command))
        (by decide)) hstatus) (by decide)) (Text.return_notMem_indent hcomplaint)
  | within heading inner =>
    rw [texts, List.forall_mem_append] at h
    exact return_notMem_append (return_notMem_append (Heading.return_notMem_line h.1) (by decide))
      (Text.return_notMem_indent (return_notMem_message h.2))
  | several failures => exact return_notMem_intercalate (by decide) (return_notMem_messages h)

theorem return_notMem_messages {failures : List Failure}
    (h : ∀ text ∈ textsOf failures, '\r' ∉ text.toList) :
    ∀ message ∈ messages failures, '\r' ∉ message.toList := by
  cases failures with
  | nil => simp [messages]
  | cons failure rest =>
    rw [textsOf, List.forall_mem_append] at h
    rw [messages, List.forall_mem_cons]
    exact ⟨return_notMem_message h.1, return_notMem_messages h.2⟩

end

theorem texts_beneath (headings : List Heading) (inner : Failure) :
    (inner.beneath headings).texts = headings.flatMap Heading.texts ++ inner.texts := by
  induction headings with
  | nil => rfl
  | cons heading rest ih =>
    rw [beneath_cons, texts, ih, List.flatMap_cons, List.append_assoc]

/-! ### Lines of messages -/

theorem message_within (heading : Heading) (inner : Failure) :
    (within heading inner).message = heading.line ++ "\n" ++ Text.indent inner.message := rfl

theorem toList_message_within (heading : Heading) (inner : Failure) :
    (within heading inner).message.toList =
      heading.line.toList ++ '\n' :: Text.indentChars inner.message.toList := by
  -- both the line feed and what is indented are texts of given characters
  rw [message_within, Text.indent, String.toList_append, String.toList_append,
    String.toList_ofList, String.toList_ofList, List.append_assoc, List.singleton_append]

/-- Between its line feeds a message holds what its headings hold, each at its depth, and then what
is under them, as many levels down as there are headings. -/
theorem splitOn_message_beneath {headings : List Heading} {inner : Failure}
    (h : ∀ text ∈ (inner.beneath headings).texts, '\r' ∉ text.toList) :
    (inner.beneath headings).message.toList.splitOn '\n' =
      (headings.mapIdx fun depth heading =>
        (heading.line.toList.splitOn '\n').map (Text.lineAt depth)).flatten ++
      (inner.message.toList.splitOn '\n').map (Text.lineAt headings.length) := by
  have hstays : Text.lineAt 0 = id := by
    funext line
    exact Text.lineAt_zero line
  induction headings with
  | nil => simp [hstays]
  | cons heading rest ih =>
    rw [beneath_cons, texts, List.forall_mem_append] at h
    have hdown (depth : Nat) : Text.indentLine ∘ Text.lineAt depth = Text.lineAt (depth + 1) := by
      funext line
      exact Text.indentLine_lineAt depth line
    have hrest : (rest.mapIdx fun depth heading =>
          (heading.line.toList.splitOn '\n').map (Text.lineAt depth)).map
            (List.map Text.indentLine) =
        rest.mapIdx fun depth heading =>
          (heading.line.toList.splitOn '\n').map (Text.lineAt (depth + 1)) := by
      apply List.ext_getElem <;> simp [hdown]
    rw [beneath_cons, toList_message_within, List.splitOn_append_cons_self,
      Text.splitOn_indentChars (return_notMem_message h.2), ih h.2, List.map_append,
      List.map_flatten, hrest, List.map_map, hdown, List.mapIdx_cons, hstays, List.map_id,
      List.flatten_cons, List.append_assoc, List.length_cons]

/-- **Every line of a message stands at its depth.** The lines of a failure's message, if there are
no carriage returns in its texts, are those of its headings, each two spaces further in than those
of the heading above it, and then those of the message without the headings, further in than all of
these. Empty lines stay empty. So it is also if what follows the last line feed is counted as a
line: no line feed is added at the end or lost there. -/
theorem lines_message_beneath {headings : List Heading} {inner : Failure}
    (h : ∀ text ∈ (inner.beneath headings).texts, '\r' ∉ text.toList) :
    Text.lines (inner.beneath headings).message.toList =
      (headings.mapIdx fun depth heading =>
        (Text.lines heading.line.toList).map (Text.lineAt depth)).flatten ++
      (Text.lines inner.message.toList).map (Text.lineAt headings.length) ∧
    (inner.beneath headings).message.toList.splitOn '\n' =
      (headings.mapIdx fun depth heading =>
        (Text.lines heading.line.toList).map (Text.lineAt depth)).flatten ++
      (inner.message.toList.splitOn '\n').map (Text.lineAt headings.length) := by
  have htexts := texts_beneath headings inner
  have hheadings : ∀ heading ∈ headings,
      Text.lines heading.line.toList = heading.line.toList.splitOn '\n' := by
    intro heading hheading
    apply Heading.lines_line
    intro text htext
    apply h
    rw [htexts]
    exact List.mem_append_left _ (List.mem_flatMap.mpr ⟨heading, hheading, htext⟩)
  have hinner : '\r' ∉ inner.message.toList := by
    apply return_notMem_message
    intro text htext
    apply h
    rw [htexts]
    exact List.mem_append_right _ htext
  have hlines : (headings.mapIdx fun depth heading =>
        (Text.lines heading.line.toList).map (Text.lineAt depth)) =
      headings.mapIdx fun depth heading =>
        (heading.line.toList.splitOn '\n').map (Text.lineAt depth) := by
    apply List.ext_getElem
    · simp
    · intro depth hdepth _
      simp only [List.getElem_mapIdx]
      rw [hheadings _ (List.getElem_mem _)]
  have hsplit := splitOn_message_beneath h
  constructor
  · have hne : (inner.message.toList.splitOn '\n').map (Text.lineAt headings.length) ≠ [] := by
      simp [List.splitOn_ne_nil]
    rw [Text.lines_eq_closed (return_notMem_message h), hsplit, hlines, Text.closed_append hne,
      Text.closed_map fun line => Text.lineAt_eq_nil_iff, Text.lines_eq_closed hinner]
  · rw [hsplit, hlines]

/-- A failed command whose complaint has an empty line in the middle and ends its last line. -/
def complaining : Failure :=
  .commandFailed "stat" (.code 1) "a\n\nb\n"

/-- Headings the first of which starts with an empty line and ends a line before its colon. -/
def straggling : List Heading :=
  [.message "\nVerification failed\n", .subject "Sync" "verify"]

theorem lines_message_beneath_complaining :
    (∀ text ∈ (complaining.beneath straggling).texts, '\r' ∉ text.toList) ∧
    Text.lines (complaining.beneath straggling).message.toList =
      ["", "Verification failed", ":", "  Sync verify failed:",
        "    Command \"stat\" exited with exit status: 1:", "      a", "", "      b"].map
          String.toList ∧
    (complaining.beneath straggling).message.toList.splitOn '\n' =
      ["", "Verification failed", ":", "  Sync verify failed:",
        "    Command \"stat\" exited with exit status: 1:", "      a", "", "      b", ""].map
          String.toList := by
  have htexts : ∀ text ∈ (complaining.beneath straggling).texts, '\r' ∉ text.toList := by decide
  obtain ⟨hlines, hsplit⟩ := lines_message_beneath htexts
  refine ⟨htexts, ?_, ?_⟩
  · rw [hlines]
    decide
  · rw [hsplit]
    decide

end Failure

end FolderBackup
