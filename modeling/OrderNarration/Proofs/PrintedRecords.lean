import OrderNarration.Proofs.AskedLookups
import OrderNarration.Proofs.Interrupts
import OrderNarration.Proofs.MessageLines

/-!
# What the output shows of a narration

The output for a transaction is its records, one after another, each with its indent before
it and a line break after it. If there is a line break in a text that a message shows, the
record takes more than one line, and what follows the break stands without an indent and may
look like the header of a log. Nothing else can.

## Implementation notes

The lines are those that end with a line feed. Their count and the lines that look like
headers are given exactly, with the condition for being what the records are.
-/

namespace OrderNarration

/-- The line of the header of a log at a position. -/
def headerLine (position : Nat) (label : Text) : Text :=
  "..log[" ++ Text.ofNat position ++ "] (topic: " ++ label ++ ")"

namespace Text

/-- The line looks like the header of a log. -/
def IsHeaderLine (line : Text) : Prop := ∃ position label, line = headerLine position label

open Classical in
/-- Those of some lines that look like headers of logs. -/
noncomputable def headersAmong (lines : List Text) : List Text :=
  lines.filter fun line => line.IsHeaderLine

theorem headersAmong_eq_nil_iff {lines : List Text} :
    headersAmong lines = [] ↔ ∀ line ∈ lines, ¬ line.IsHeaderLine := by
  simp [headersAmong]

theorem headersAmong_append (lines others : List Text) :
    headersAmong (lines ++ others) = headersAmong lines ++ headersAmong others := by
  simp [headersAmong]

theorem IsHeaderLine.third {t : Text} (h : t.IsHeaderLine) : t[2]? = some (.scalar 'l') := by
  obtain ⟨position, label, rfl⟩ := h
  rfl

end Text

namespace Record

/-- The message has a line break only if there is one in what the record names. The header of a log
has none and looks like a header, and the remark that there are no logs is always the same. -/
structure IsTold (r : Record) : Prop where
  message : r.NamesOneLine → r.message.IsOneLine
  header : r.kind = .logHeader → r.message.IsOneLine ∧ r.line.IsHeaderLine
  remark : r.kind = .noLogs → r.message = "No logs found"

theorem IsOwn.isTold {r : Record} (h : r.IsOwn) : r.IsTold where
  message := h.message
  header := fun hkind => absurd hkind h.noHeader
  remark := fun hkind => absurd hkind h.noRemark

/-- The lines of the headers among some records. -/
def headers (records : List Record) : List Text :=
  (records.filter fun r => r.kind = .logHeader).map line

theorem headers_append (records others : List Record) :
    headers (records ++ others) = headers records ++ headers others := by
  simp [headers]

theorem flatMap_headers (records : List Record) :
    (records.flatMap fun r => headers [r]) = headers records := by
  induction records with
  | nil => rfl
  | cons r rest ih => rw [List.flatMap_cons, ih, ← headers_append, List.singleton_append]

theorem headers_eq_nil {records : List Record} (h : ∀ r ∈ records, r.kind ≠ .logHeader) :
    headers records = [] := by
  simpa [headers] using h

end Record

namespace Narration

variable {topics : TopicTable} {node : Node} {value : Value} {hash : Option Text}
  {records : List Record} {position : Nat}

theorem isTold_header (log : EventLog) (kind : EventKind) (position : Nat) :
    (log.header kind position).IsTold := by
  have hmessage : (log.header kind position).message.IsOneLine := by
    show Text.IsOneLine ("log[" ++ Text.ofNat position ++ "] (topic: " ++ kind.label ++ ")")
    simp only [Text.isOneLine_append, Text.isOneLine_ofNat, kind.label_isOneLine]
    decide
  have hkind : (log.header kind position).kind ≠ .noLogs :=
    show RecordKind.logHeader ≠ .noLogs by decide
  exact ⟨fun _ => hmessage, fun _ => ⟨hmessage, position, kind.label, rfl⟩,
    fun hremark => absurd hremark hkind⟩

/-- What the entry of a receipt narrates has one header, that of its log. -/
theorem isTold_of_entry (h : (entry topics node hash position value).outcome = .ok records) :
    ∃ log, EventLog.ofValue value = .ok log ∧ (∀ r ∈ records, r.IsTold) ∧
      Record.headers records = [headerLine position (log.classified topics).kind.label] := by
  obtain ⟨log, own, hlog, hown, rfl⟩ := entry_eq_ok_iff.mp h
  have htold := isOwn_of_log hown
  refine ⟨log, hlog, ?_, ?_⟩
  · intro r hr
    rcases List.mem_cons.mp hr with rfl | hr
    · exact isTold_header _ _ _
    · exact (htold r hr).isTold
  · rw [← List.singleton_append, Record.headers_append,
      Record.headers_eq_nil fun r hr => (htold r hr).noHeader]
    rfl

theorem isTold_of_entriesFrom {values : List Value}
    (h : (entriesFrom topics node hash position values).outcome = .ok records) :
    ∃ logs, values.mapM EventLog.ofValue = .ok logs ∧ (∀ r ∈ records, r.IsTold) ∧
      Record.headers records =
        logs.mapIdx fun i log => headerLine (position + i) (log.classified topics).kind.label := by
  induction values generalizing position records with
  | nil =>
      obtain rfl := Except.ok.inj h
      exact ⟨[], rfl, by simp, rfl⟩
  | cons v rest ih =>
      rw [entriesFrom, Run.outcome_bind] at h
      obtain ⟨own, hown, hrest⟩ := Outcome.bind_eq_ok_iff.mp h
      obtain ⟨others, hothers, rfl⟩ := Outcome.map_eq_ok_iff.mp hrest
      obtain ⟨log, hlog, htold, hheaders⟩ := isTold_of_entry hown
      obtain ⟨logs, hlogs, hmore, hfurther⟩ := ih hothers
      refine ⟨log :: logs, by simp [List.mapM_cons, hlog, hlogs], ?_, ?_⟩
      · exact List.forall_mem_append.mpr ⟨htold, hmore⟩
      · rw [Record.headers_append, hheaders, hfurther, List.mapIdx_cons, List.singleton_append]
        simp only [Nat.add_zero, Nat.add_assoc, Nat.add_comm 1]

/-- The narration of a receipt has one header for each log, in the order of the logs. -/
theorem isTold_of_receipt (h : (receipt topics node value hash).outcome = .ok records) :
    ∃ logs, value.readLogs = .ok logs ∧ (∀ r ∈ records, r.IsTold) ∧
      Record.headers records =
        logs.mapIdx fun i log => headerLine i (log.classified topics).kind.label := by
  rw [receipt, Run.outcome_bind, Run.outcome_ofExcept] at h
  obtain ⟨entries, hentries, hrest⟩ := Outcome.bind_eq_ok_iff.mp h
  rw [Value.readLogs, hentries, Outcome.ok_bind]
  cases entries with
  | nil =>
      obtain rfl := Except.ok.inj hrest
      have hremark : Text.IsOneLine "No logs found" := by decide
      have hkind : RecordKind.noLogs ≠ .logHeader := by decide
      refine ⟨[], rfl, fun r hr => ?_, rfl⟩
      obtain rfl := List.mem_singleton.mp hr
      exact ⟨fun _ => hremark, fun hheader => absurd hheader hkind, fun _ => rfl⟩
  | cons first rest => simpa using isTold_of_entriesFrom hrest

end Narration

namespace Record

variable {r : Record} {records : List Record}

theorem indent_isOneLine (r : Record) : r.indent.IsOneLine := by
  rw [indent]
  split
  · decide
  · decide

/-- The further lines of a record: what stands behind the line breaks of its message. -/
def furtherLines (r : Record) : List Text := r.message.parts.tail

theorem length_furtherLines (r : Record) :
    r.furtherLines.length = r.message.count Text.lineBreak := by
  rw [furtherLines, List.length_tail, Text.length_parts, Nat.add_sub_cancel]

theorem furtherLines_eq_nil_iff : r.furtherLines = [] ↔ r.message.IsOneLine := by
  rw [← List.length_eq_zero_iff, length_furtherLines, List.count_eq_zero, Text.IsOneLine]

theorem parts_line (r : Record) :
    r.line.parts = (r.indent ++ r.message.parts.head (Text.parts_ne_nil _)) :: r.furtherLines := by
  rw [line_eq, Text.parts_append r.indent_isOneLine, furtherLines]
  conv_lhs => rw [← List.cons_head_tail (Text.parts_ne_nil r.message)]
  rfl

theorem parts_line_of_isOneLine (h : r.message.IsOneLine) : r.line.parts = [r.line] := by
  apply Text.parts_of_isOneLine
  rw [line_eq]
  exact Text.isOneLine_append.mpr ⟨r.indent_isOneLine, h⟩

theorem headersAmong_parts_of_isOneLine (hmessage : r.message.IsOneLine)
    (hline : r.line.IsHeaderLine ↔ r.kind = .logHeader) :
    Text.headersAmong r.line.parts = headers [r] ++ Text.headersAmong r.furtherLines := by
  rw [parts_line_of_isOneLine hmessage, furtherLines_eq_nil_iff.mpr hmessage]
  by_cases hheader : r.kind = .logHeader
  · simp [Text.headersAmong, headers, hheader, hline.mpr hheader]
  · simp [Text.headersAmong, headers, hheader, mt hline.mp hheader]

/-- Of the first lines only those of headers look like headers. -/
theorem headersAmong_parts_line (h : r.IsTold) :
    Text.headersAmong r.line.parts = headers [r] ++ Text.headersAmong r.furtherLines := by
  by_cases hheader : r.kind = .logHeader
  · obtain ⟨hmessage, hline⟩ := h.header hheader
    exact headersAmong_parts_of_isOneLine hmessage (iff_of_true hline hheader)
  by_cases hremark : r.kind = .noLogs
  · have hmessage : r.message.IsOneLine := by
      rw [h.remark hremark]
      decide
    have hline : ¬ r.line.IsHeaderLine := by
      rw [line, if_pos (.inl hremark), h.remark hremark]
      exact fun hlooks => absurd hlooks.third (by decide)
    exact headersAmong_parts_of_isOneLine hmessage (iff_of_false hline hheader)
  -- All other records have the longer indent, whatever their message.
  have hfirst : ¬ (r.indent ++ r.message.parts.head (Text.parts_ne_nil _)).IsHeaderLine := by
    rw [indent, if_neg (not_or.mpr ⟨hremark, hheader⟩)]
    intro hlooks
    have hthird : some (CodePoint.scalar '.') = some (CodePoint.scalar 'l') := hlooks.third
    exact absurd hthird (by decide)
  rw [parts_line]
  simp [Text.headersAmong, headers, hheader, hfirst]

end Record

/-- What an output shows of records. -/
structure Text.Shows (output : Text) (records : List Record) : Prop where
  /-- Each message stands behind its indent, and a line break follows it. -/
  written : output = records.flatMap fun r => r.indent ++ r.message ++ [Text.lineBreak]
  /-- Each record takes one line, and one more for each line break in its message. -/
  lineCount : output.lines.length =
    records.length + (records.map fun r => r.message.count Text.lineBreak).sum
  lines : output.lines = records.map Record.line ↔ ∀ r ∈ records, r.message.IsOneLine
  /-- The headers are there in their order, and all other lines that look like headers are further
  lines of records. -/
  headers : (Record.headers records).Sublist (Text.headersAmong output.lines)
  headerCount : (Text.headersAmong output.lines).length =
    (Record.headers records).length +
      (records.map fun r => (Text.headersAmong r.furtherLines).length).sum
  headerLines : Text.headersAmong output.lines = Record.headers records ↔
    ∀ r ∈ records, ∀ further ∈ r.furtherLines, ¬ further.IsHeaderLine
  /-- Only what a record names brings a line break into its message. -/
  named : ∀ r ∈ records, r.NamesOneLine → r.message.IsOneLine
  faithful : (∀ r ∈ records, r.NamesOneLine) →
    output.lines = records.map Record.line ∧
      Text.headersAmong output.lines = Record.headers records

namespace CommandLine

variable {records : List Record} {inv : Invocation} {hash : Text}

theorem lines_recordLines (records : List Record) :
    (recordLines records).lines = records.flatMap fun r => r.line.parts :=
  Text.lines_flatMap records Record.line

/-- Each record takes one line, and one more for each line break in its message. -/
theorem length_lines_recordLines (records : List Record) :
    (recordLines records).lines.length =
      records.length + (records.map fun r => r.message.count Text.lineBreak).sum := by
  rw [lines_recordLines]
  induction records with
  | nil => rfl
  | cons r rest ih =>
      rw [List.flatMap_cons, List.length_append, ih, Record.parts_line, List.length_cons,
        Record.length_furtherLines, List.length_cons, List.map_cons, List.sum_cons]
      omega

/-- The lines are those of the records exactly if no message has a line break. -/
theorem lines_recordLines_eq_iff :
    (recordLines records).lines = records.map Record.line ↔
      ∀ r ∈ records, r.message.IsOneLine := by
  constructor
  · intro h r hr
    have hlength := length_lines_recordLines records
    rw [h, List.length_map] at hlength
    have hnone : (records.map fun r => r.message.count Text.lineBreak).sum = 0 := by omega
    have hcount := List.sum_eq_zero_iff.mp hnone _ (List.mem_map_of_mem hr)
    exact List.count_eq_zero.mp hcount
  · intro h
    rw [lines_recordLines, List.flatMap_congr fun r hr => Record.parts_line_of_isOneLine (h r hr)]
    exact List.map_eq_flatMap.symm

/-- The lines that look like headers are those of the headers, and among the further lines of
records those that look so. -/
theorem headersAmong_recordLines (h : ∀ r ∈ records, r.IsTold) :
    Text.headersAmong (recordLines records).lines =
      records.flatMap fun r => Record.headers [r] ++ Text.headersAmong r.furtherLines := by
  rw [lines_recordLines]
  induction records with
  | nil => rfl
  | cons r rest ih =>
      obtain ⟨hown, hrest⟩ := List.forall_mem_cons.mp h
      rw [List.flatMap_cons, Text.headersAmong_append, ih hrest,
        Record.headersAmong_parts_line hown, List.flatMap_cons]

theorem length_headersAmong_recordLines (h : ∀ r ∈ records, r.IsTold) :
    (Text.headersAmong (recordLines records).lines).length =
      (Record.headers records).length +
        (records.map fun r => (Text.headersAmong r.furtherLines).length).sum := by
  rw [headersAmong_recordLines h, ← Record.flatMap_headers, List.length_flatMap,
    List.length_flatMap, ← List.sum_map_add]
  simp only [List.length_append]

/-- The lines that look like headers are those of the headers exactly if no further line of a
record looks so. -/
theorem headersAmong_recordLines_eq_iff (h : ∀ r ∈ records, r.IsTold) :
    Text.headersAmong (recordLines records).lines = Record.headers records ↔
      ∀ r ∈ records, Text.headersAmong r.furtherLines = [] := by
  constructor
  · intro heq r hr
    have hlength := length_headersAmong_recordLines h
    rw [heq] at hlength
    have hnone : (records.map fun r => (Text.headersAmong r.furtherLines).length).sum = 0 := by
      omega
    have hown := List.sum_eq_zero_iff.mp hnone _ (List.mem_map_of_mem hr)
    exact List.length_eq_zero_iff.mp hown
  · intro hnone
    rw [headersAmong_recordLines h, ← Record.flatMap_headers]
    apply List.flatMap_congr
    intro r hr
    rw [hnone r hr, List.append_nil]

/-- The lines of the headers are always there. -/
theorem headers_sublist_recordLines (h : ∀ r ∈ records, r.IsTold) :
    (Record.headers records).Sublist (Text.headersAmong (recordLines records).lines) := by
  rw [headersAmong_recordLines h, ← Record.flatMap_headers]
  exact List.Sublist.flatMap_right _ fun r _ => List.sublist_append_left _ _

theorem recordLines_shows (h : ∀ r ∈ records, r.IsTold) :
    (recordLines records).Shows records := by
  constructor
  case written =>
    apply List.flatMap_congr
    intro r _
    rw [Record.line_eq]
    rfl
  case lineCount => exact length_lines_recordLines records
  case lines => exact lines_recordLines_eq_iff
  case headers => exact headers_sublist_recordLines h
  case headerCount => exact length_headersAmong_recordLines h
  case headerLines =>
    rw [headersAmong_recordLines_eq_iff h]
    simp only [Text.headersAmong_eq_nil_iff]
  case named => exact fun r hr => (h r hr).message
  case faithful =>
    intro names
    have hmessages : ∀ r ∈ records, r.message.IsOneLine := fun r hr =>
      (h r hr).message (names r hr)
    refine ⟨lines_recordLines_eq_iff.mpr hmessages, ?_⟩
    rw [headersAmong_recordLines_eq_iff h]
    intro r hr
    rw [Record.furtherLines_eq_nil_iff.mpr (hmessages r hr)]
    rfl

theorem records_of_runTransaction {routing : Logging.Routing}
    (h : (runTransaction inv routing hash).ending = .ok success) :
    ∃ records, (Narration.transaction inv.topics inv.node (.text hash)).outcome = .ok records ∧
      (runTransaction inv routing hash).output = recordLines records := by
  rw [runTransaction, after] at h ⊢
  cases houtcome : (Narration.transaction inv.topics inv.node (.text hash)).outcome with
  | ok records => exact ⟨records, rfl, rfl⟩
  | error e =>
      simp only [houtcome] at h
      split at h
      · simp [complain, success, failure] at h
      · split at h
        · simp [complain, success, failure] at h
        · rw [stopWith] at h
          split at h
          · simp [success, interrupted] at h
          · simp at h

/-- A command that succeeds with one argument has asked for the receipt of a transaction, and its
output is what the receipt narrates. -/
theorem receipt_of_success (hargs : inv.arguments = [hash])
    (hsuccess : (run inv).ending = .ok success) :
    ∃ found records, inv.AsksReceipt hash found ∧
      (Narration.receipt inv.topics inv.node found (some hash)).outcome = .ok records ∧
      (run inv).output = recordLines records := by
  have isHash : HashText.IsHash hash := by
    by_contra hno
    have hfailure : (run inv).ending = .ok failure := by
      apply run_of_bad_arguments
      · intro other hother
        obtain rfl := List.singleton_inj.mp (hargs.symm.trans hother)
        exact hno
      · rintro range ⟨first, last, hrange, -⟩
        simp [hargs] at hrange
    simp [hfailure, success, failure] at hsuccess
  cases hconnect : (connect inv).outcome with
  | error e =>
      obtain ⟨hending, -, -⟩ := run_of_unconnected hconnect
      simp [hsuccess, success, failure] at hending
  | ok _ =>
      obtain ⟨routing, hending, houtput, -⟩ := run_of_connected inv
        (Request.ofArguments_eq_transaction_iff.mpr ⟨hargs, isHash⟩) hconnect
      obtain ⟨records, hrecords, hlines⟩ := records_of_runTransaction (hending.symm.trans hsuccess)
      rw [Narration.transaction_outcome _ _ isHash] at hrecords
      obtain ⟨found, hask, hrecords⟩ := Outcome.bind_eq_ok_iff.mp hrecords
      cases found with
      | none => cases hrecords
      | some found =>
          exact ⟨found, records, ⟨hargs, isHash, Node.fetched_of_ask hask⟩, hrecords,
            houtput.trans hlines⟩

/-- A command that succeeds for a transaction prints the records of its receipt, which have one
header for each log, in the order of the logs. What a record names is printed as it is: each line
break in it begins a line that has no indent and may look like a header. -/
theorem run_prints_records (inv : Invocation) (hash : Text) (hargs : inv.arguments = [hash])
    (hsuccess : (run inv).ending = .ok success) :
    ∃ found logs records, inv.AsksReceipt hash found ∧ found.readLogs = .ok logs ∧
      (Narration.receipt inv.topics inv.node found (some hash)).outcome = .ok records ∧
      (Record.headers records =
        logs.mapIdx fun i log => headerLine i (log.classified inv.topics).kind.label) ∧
      (run inv).output.Shows records := by
  obtain ⟨found, records, hasks, hrecords, houtput⟩ := receipt_of_success hargs hsuccess
  obtain ⟨logs, hlogs, htold, hheaders⟩ := Narration.isTold_of_receipt hrecords
  rw [houtput]
  exact ⟨found, logs, records, hasks, hlogs, hrecords, hheaders, recordLines_shows htold⟩

end CommandLine

/-- The canonical encoding of a list of one text of more than one byte and of less than 55 bytes. -/
def idData (t : String) : List UInt8 :=
  let bytes := Utf8.encode t.toList
  UInt8.ofNat (0xC1 + bytes.length) :: UInt8.ofNat (0x80 + bytes.length) :: bytes

/-- A node that gives one log with a list of one order hash for every receipt. -/
def idNode (t : String) : Node
  | .receipt _ => .found (receiptOf [plainEntry "0xaa" (idData t)])
  | _ => .absent

/-- The command for a transaction with one log of a list of one order hash. -/
def callOnId (t : String) : Invocation :=
  { callOn (idNode t) [zeroHash] with topics := [("0xaa", .triggeredIds)] }

/-- An order hash without a line break is printed on a line of its own, below the one header. -/
theorem run_prints_plain_hash :
    let inv := callOnId "ab"
    inv.arguments = [zeroHash] ∧ (CommandLine.run inv).ending = .ok CommandLine.success ∧
      (CommandLine.run inv).output.lines =
        [headerLine 0 EventKind.triggeredIds.label, "....TRIGGERED IDS[0]: ab"] ∧
      Text.headersAmong (CommandLine.run inv).output.lines =
        [headerLine 0 EventKind.triggeredIds.label] := by
  intro inv
  have hsuccess : (CommandLine.run inv).ending = .ok CommandLine.success :=
    Outcome.eq_ok_of_toOption (by decide +kernel)
  obtain ⟨found, logs, records, hasks, hlogs, hrecords, hheaders, hshows⟩ :=
    CommandLine.run_prints_records inv zeroHash rfl hsuccess
  have hview : (Narration.receipt inv.topics inv.node found (some zeroHash)).outcome.toOption.map
      (fun records => (decide (∀ r ∈ records, r.NamesOneLine), records.map Record.line,
        Record.headers records)) =
        some (true, [headerLine 0 EventKind.triggeredIds.label, "....TRIGGERED IDS[0]: ab"],
          [headerLine 0 EventKind.triggeredIds.label]) := by
    obtain rfl := Option.some.inj hasks.fetched
    decide +kernel
  obtain ⟨_, hok, hseen⟩ := Outcome.exists_ok_of_view hview
  obtain rfl := Except.ok.inj (hrecords.symm.trans hok)
  obtain ⟨hnames, hseen⟩ := Prod.mk.inj hseen
  obtain ⟨hlines, hheader⟩ := Prod.mk.inj hseen
  obtain ⟨honly, hnoOther⟩ := hshows.faithful (of_decide_eq_true hnames)
  exact ⟨rfl, hsuccess, honly.trans hlines, hnoOther.trans hheader⟩

/-- A line break in an order hash forges the header of a log: the receipt has one log, and the
output of its two records has a second line that looks like a header. -/
theorem forged_header_printed :
    let inv := callOnId "ab\n..log[7] (topic: TRADES)"
    inv.arguments = [zeroHash] ∧ (CommandLine.run inv).ending = .ok CommandLine.success ∧
      (∃ logs, (receiptOf [plainEntry "0xaa" (idData "ab\n..log[7] (topic: TRADES)")]).readLogs =
        .ok logs ∧ logs.length = 1) ∧
      (∃ records, (Narration.transaction inv.topics inv.node (.text zeroHash)).outcome =
        .ok records ∧ records.length = 2) ∧
      (CommandLine.run inv).output.lines =
        [headerLine 0 "TRIGGERED IDS", "....TRIGGERED IDS[0]: ab", headerLine 7 "TRADES"] := by
  intro inv
  have hview : (Narration.transaction inv.topics inv.node (.text zeroHash)).outcome.toOption.map
      List.length = some 2 := by decide +kernel
  have hlogs : (receiptOf [plainEntry "0xaa"
      (idData "ab\n..log[7] (topic: TRADES)")]).readLogs.toOption.map List.length = some 1 := by
    decide +kernel
  exact ⟨rfl, Outcome.eq_ok_of_toOption (by decide +kernel), Outcome.exists_ok_of_view hlogs,
    Outcome.exists_ok_of_view hview, by decide +kernel⟩

end OrderNarration
