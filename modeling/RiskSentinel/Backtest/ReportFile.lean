import RiskSentinel.Backtest.Report
import RiskSentinel.Foundation.Json
import RiskSentinel.Foundation.Text

namespace RiskSentinel
namespace Backtest

open Foundation Risk

/-!
# The report as a file

`FileAlertChannel` in `Report` is a list of lines that grows when a write
succeeds.  Here the same channel writes characters to a stream, which has a
buffer in front of the file.  A line goes into the buffer, and the flush behind
it brings the buffer to the file.

When this fails, the channel clears the state of the stream and keeps its
count.  That takes nothing back: some characters may have reached the file, and
what stands in the buffer stays there.  The next flush writes it in front of
the next line, and the last one is that of the destructor.

While failed writes leave nothing in either place, the file is the text of the
lines of the abstract channel, so it can be read back line by line.  A single
character that is left ends this.
-/

def JsonValue.scalar : JsonValue -> Json.Scalar
  | .number value => .number value.toNat
  | .text value => .text value

/-- The object of a line. -/
def JsonLine.object (line : JsonLine) : Json.Object :=
  line.map fun entry => (entry.1, entry.2.scalar)

/-- A write that has failed.  Of what the stream had to write so many
characters have reached the file, and of the line so many have been taken into
the buffer.  The buffer may have been relieved of characters that reached the
file, but not of others. -/
structure FailedWrite where
  reached : Nat
  taken : Nat
  relieved : Nat
  relieved_le : relieved ≤ reached
deriving DecidableEq, Repr

/-- How an attempt to write a line ends.  A serialisation that throws has not
reached the stream. -/
inductive WriteResult where
  | serialisationThrows
  | failed (write : FailedWrite)
  | written
deriving DecidableEq, Repr

def WriteResult.isWritten : WriteResult -> Bool
  | .written => true
  | .serialisationThrows | .failed _ => false

/-- The file behind the channel, the buffer of its stream, and the channel's
count. -/
structure ReportFile where
  content : List Char := []
  pending : List Char := []
  alertCount : Nat := 0

namespace ReportFile

section Runs

variable (json : Json.Library Json.Distinct)

/-- What is written for an alert: `payload.dump()` and the line break. -/
def line (index : Nat) (alert : Alert) : List Char :=
  json.dump (JsonLine.object (FileAlertChannel.payload index alert)) ++ ['\n']

/-- `FileAlertChannel::send`.  The index is taken before the attempt and
becomes the count only after a good flush. -/
def send (file : ReportFile) (alert : Alert) (result : WriteResult) : ReportFile :=
  let tentativeIndex := file.alertCount + 1
  let line := line json tentativeIndex alert
  match result with
  | .serialisationThrows => file
  | .failed write =>
      { file with
        content := file.content ++ (file.pending ++ line).take write.reached
        pending := (file.pending ++ line.take write.taken).drop write.relieved }
  | .written =>
      { content := file.content ++ (file.pending ++ line)
        pending := []
        alertCount := tentativeIndex }

/-- A sequence of calls. -/
def sendAll (file : ReportFile) (attempts : List (Alert × WriteResult)) : ReportFile :=
  attempts.foldl (fun current attempt => current.send json attempt.1 attempt.2) file

/-- The destructor flushes once more, and so many characters of the buffer
reach the file. -/
def close (file : ReportFile) (flushed : Nat) : ReportFile :=
  { file with content := file.content ++ file.pending.take flushed, pending := [] }

/-- The alerts whose lines were written. -/
def sent (attempts : List (Alert × WriteResult)) : List Alert :=
  (attempts.filter fun attempt => attempt.2.isWritten).map Prod.fst

/-- The abstract channel over the same calls. -/
def linesOf (channel : FileAlertChannel) (attempts : List (Alert × WriteResult)) :
    FileAlertChannel :=
  attempts.foldl (fun current attempt => current.send attempt.1 attempt.2.isWritten) channel

end Runs

/-! ## What a reader of the report recovers -/

/-- The fields of one line. -/
structure ReportedAlert where
  alertIndex : UInt64
  customerId : UInt64
  ruleType : String
  message : String
  timestampMs : UInt64
  chainId : Option UInt64
  tokenAddress : Option String
  amountDecimal : Option String
deriving DecidableEq, Repr

def number? (object : Json.Object) (key : String) : Option UInt64 :=
  match object.lookup key with
  | some (.number value) => some (UInt64.ofNat value)
  | _ => none

def text? (object : Json.Object) (key : String) : Option String :=
  match object.lookup key with
  | some (.text value) => some value
  | _ => none

/-- Read an object as a line of the report.  The last three fields may be
missing. -/
def recover (object : Json.Object) : Option ReportedAlert := do
  let alertIndex ← number? object "alert_index"
  let customerId ← number? object "customer_id"
  let ruleType ← text? object "rule_type"
  let message ← text? object "message"
  let timestampMs ← number? object "timestamp_ms"
  return { alertIndex, customerId, ruleType, message, timestampMs, chainId := number? object "chain_id"
           tokenAddress := text? object "token_address", amountDecimal := text? object "amount_decimal" }

/-- What line `index` should say about an alert. -/
def reported (index : Nat) (alert : Alert) : ReportedAlert where
  alertIndex := UInt64.ofNat index
  customerId := alert.customerId
  ruleType := alert.ruleType
  message := alert.message
  timestampMs := alert.timestampMs
  chainId := alert.chainId
  tokenAddress := alert.tokenAddress
  amountDecimal := alert.amountDecimal

private theorem number?_of_lookup {object : Json.Object} {key : String} {value : Option UInt64}
    (found : object.lookup key = value.map fun present => Json.Scalar.number present.toNat) :
    number? object key = value := by
  cases value with
  | none => simp [number?, found]
  | some present => simp [number?, found]

private theorem text?_of_lookup {object : Json.Object} {key : String} {value : Option String}
    (found : object.lookup key = value.map Json.Scalar.text) : text? object key = value := by
  cases value with
  | none => simp [text?, found]
  | some present => simp [text?, found]

/-- Every field of the alert is recovered from the object that is written. -/
theorem recover_payload (index : Nat) (alert : Alert) :
    recover (JsonLine.object (FileAlertChannel.payload index alert)) =
      some (reported index alert) := by
  have alertIndex : number? (JsonLine.object (FileAlertChannel.payload index alert)) "alert_index" =
      some (UInt64.ofNat index) := number?_of_lookup rfl
  have customerId : number? (JsonLine.object (FileAlertChannel.payload index alert)) "customer_id" =
      some alert.customerId := number?_of_lookup rfl
  have ruleType : text? (JsonLine.object (FileAlertChannel.payload index alert)) "rule_type" =
      some alert.ruleType := text?_of_lookup rfl
  have message : text? (JsonLine.object (FileAlertChannel.payload index alert)) "message" =
      some alert.message := text?_of_lookup rfl
  have timestampMs : number?
        (JsonLine.object (FileAlertChannel.payload index alert)) "timestamp_ms" =
      some alert.timestampMs := number?_of_lookup rfl
  -- The optional fields come last; each of them may be there without the others.
  have optional : number?
      (JsonLine.object (FileAlertChannel.payload index alert)) "chain_id" = alert.chainId ∧
      text? (JsonLine.object (FileAlertChannel.payload index alert)) "token_address" =
        alert.tokenAddress ∧
      text? (JsonLine.object (FileAlertChannel.payload index alert)) "amount_decimal" =
        alert.amountDecimal := by
    rcases alert with ⟨_, _, _, _, _, amount, token, chain⟩
    cases chain <;> cases token <;> cases amount <;>
      exact ⟨number?_of_lookup rfl, text?_of_lookup rfl, text?_of_lookup rfl⟩
  rcases optional with ⟨chainId, tokenAddress, amountDecimal⟩
  simp only [recover, alertIndex, customerId, ruleType, message, timestampMs, chainId,
    tokenAddress, amountDecimal]
  rfl

/-- The object of a line is one that the library reads back. -/
theorem distinct_payload (index : Nat) (alert : Alert) :
    Json.Distinct (JsonLine.object (FileAlertChannel.payload index alert)) := by
  constructor
  · rcases alert with ⟨_, _, _, _, _, amount, token, chain⟩
    cases chain <;> cases token <;> cases amount <;>
      simp [JsonLine.object, FileAlertChannel.payload]
  · intro entry member
    rcases List.mem_map.mp member with ⟨⟨key, value⟩, _, rfl⟩
    cases value with
    | number value => exact value.toNat_lt
    | text value => trivial

section Runs

variable (json : Json.Library Json.Distinct)

/-- The file consists of as many complete lines as the channel has counted.
Line `k` is an object with index `k`, and the lines carry the given alerts in
order, with all their fields and no others. -/
structure WellFormed (file : ReportFile) (alerts : List Alert) : Prop where
  complete : (readLines file.content).2 = []
  counted : (readLines file.content).1.length = file.alertCount
  lines : (readLines file.content).1.map (fun line => (json.read line).bind recover) =
    (alerts.zipIdx 1).map fun entry => some (reported entry.2 entry.1)

/-! ## Runs -/

/-- The attempt left nothing in the file or in the buffer unless it wrote its
whole line. -/
def LeavesNothing (attempt : Alert × WriteResult) : Prop :=
  forall write, attempt.2 = .failed write -> write.reached = 0 ∧ write.taken = 0

/-- The texts of lines, without their line breaks. -/
def texts (lines : List JsonLine) : List (List Char) :=
  lines.map fun line => json.dump line.object

/-- The file is the text of the lines of the abstract channel, and the buffer
is empty. -/
structure Represents (file : ReportFile) (channel : FileAlertChannel) : Prop where
  content : file.content = joinLines (texts json channel.lines)
  pending : file.pending = []
  alertCount : file.alertCount = channel.alertCount
  payloads : forall line, line ∈ channel.lines -> Json.Distinct line.object

variable {json} {file : ReportFile} {channel : FileAlertChannel}

theorem Represents.send (represents : Represents json file channel) {alert : Alert}
    {result : WriteResult} (clean : LeavesNothing (alert, result)) :
    Represents json (file.send json alert result) (channel.send alert result.isWritten) := by
  cases result with
  | serialisationThrows => exact represents
  | failed write =>
      rcases clean write rfl with ⟨reached, taken⟩
      refine ⟨?_, ?_, represents.alertCount, represents.payloads⟩
      · change file.content ++ (_ : List Char).take write.reached = _
        rw [reached, List.take_zero, List.append_nil]
        exact represents.content
      · change (file.pending ++ (_ : List Char).take write.taken).drop write.relieved = []
        rw [taken, List.take_zero, List.append_nil, represents.pending, List.drop_nil]
  | written =>
      refine ⟨?_, rfl, ?_, ?_⟩
      · change file.content ++ (file.pending ++ line json (file.alertCount + 1) alert) =
          joinLines (texts json
            (channel.lines ++ [FileAlertChannel.payload (channel.alertCount + 1) alert]))
        rw [represents.content, represents.pending, represents.alertCount]
        simp [joinLines, texts, line]
      · change file.alertCount + 1 = channel.alertCount + 1
        rw [represents.alertCount]
      · intro listed member
        rcases List.mem_append.mp member with before | isLast
        · exact represents.payloads listed before
        · rw [List.mem_singleton.mp isLast]
          exact distinct_payload _ alert

/-- While failed writes leave nothing, the file refines the list of lines. -/
theorem Represents.sendAll (represents : Represents json file channel)
    {attempts : List (Alert × WriteResult)}
    (clean : forall attempt, attempt ∈ attempts -> LeavesNothing attempt) :
    Represents json (file.sendAll json attempts) (linesOf channel attempts) := by
  induction attempts generalizing file channel with
  | nil => exact represents
  | cons attempt rest inductionHypothesis =>
      exact inductionHypothesis (represents.send (clean attempt List.mem_cons_self))
        (fun other member => clean other (List.mem_cons_of_mem _ member))

/-- The lines are those of the sent alerts, numbered from where the channel
stood. -/
theorem lines_linesOf (channel : FileAlertChannel) (attempts : List (Alert × WriteResult)) :
    (linesOf channel attempts).lines =
        channel.lines ++ ((sent attempts).zipIdx (channel.alertCount + 1)).map
          (fun entry => FileAlertChannel.payload entry.2 entry.1) ∧
      (linesOf channel attempts).alertCount =
        channel.alertCount + (sent attempts).length := by
  induction attempts generalizing channel with
  | nil => simp [linesOf, sent]
  | cons attempt rest inductionHypothesis =>
      rcases attempt with ⟨alert, result⟩
      have others := inductionHypothesis (channel.send alert result.isWritten)
      have step : linesOf channel ((alert, result) :: rest) =
          linesOf (channel.send alert result.isWritten) rest := rfl
      rw [step, others.1, others.2]
      cases written : result.isWritten with
      | false =>
          have skipped : sent ((alert, result) :: rest) = sent rest := by simp [sent, written]
          rw [skipped]
          exact ⟨rfl, rfl⟩
      | true =>
          have listed : sent ((alert, result) :: rest) = alert :: sent rest := by
            simp [sent, written]
          rw [listed]
          constructor
          · simp [FileAlertChannel.send]
          · simp only [FileAlertChannel.send, if_true, List.length_cons]
            omega

private theorem newline_not_mem_texts {lines : List JsonLine}
    (payloads : forall line, line ∈ lines -> Json.Distinct line.object) :
    forall text, text ∈ texts json lines -> '\n' ∉ text := by
  intro text member
  rcases List.mem_map.mp member with ⟨line, listed, rfl⟩
  exact json.oneLine _ (payloads line listed)

/-- Reading the file and something behind it that has no line break. -/
theorem Represents.readLines (represents : Represents json file channel) {tail : List Char}
    (clean : '\n' ∉ tail) :
    readLines (file.content ++ tail) = (texts json channel.lines, tail) := by
  rw [represents.content]
  exact readLines_joinLines _ tail (newline_not_mem_texts represents.payloads) clean

private theorem represents_new (attempts : List (Alert × WriteResult))
    (clean : forall attempt, attempt ∈ attempts -> LeavesNothing attempt) :
    Represents json (ReportFile.sendAll json {} attempts) (linesOf {} attempts) :=
  Represents.sendAll ⟨rfl, rfl, rfl, fun _ impossible => by cases impossible⟩ clean

private theorem count_new (attempts : List (Alert × WriteResult)) :
    (linesOf {} attempts).lines.length = (linesOf {} attempts).alertCount := by
  rw [(lines_linesOf {} attempts).1, (lines_linesOf {} attempts).2]
  simp

/-- A run in which failed writes leave nothing makes a report in order, and
closing it changes nothing. -/
theorem wellFormed_of_clean (attempts : List (Alert × WriteResult))
    (clean : forall attempt, attempt ∈ attempts -> LeavesNothing attempt) (flushed : Nat) :
    WellFormed json ((ReportFile.sendAll json {} attempts).close flushed) (sent attempts) := by
  have represents : Represents json _ _ := represents_new attempts clean
  have listed := lines_linesOf {} attempts
  have read := represents.readLines List.not_mem_nil
  have closed : ((ReportFile.sendAll json {} attempts).close flushed).content =
      (ReportFile.sendAll json {} attempts).content ++ [] := by
    rw [close, represents.pending, List.take_nil]
  refine ⟨by rw [closed, read], ?_, ?_⟩
  · rw [closed, read]
    change _ = (ReportFile.sendAll json {} attempts).alertCount
    rw [represents.alertCount, ← count_new, texts, List.length_map]
  · rw [closed, read, texts, listed.1]
    simp only [List.nil_append, List.map_map, Nat.zero_add]
    apply List.map_congr_left
    intro entry _
    simp only [Function.comp_apply, json.read_dump _ (distinct_payload _ _), Option.bind_some,
      recover_payload]

/-- A part of the next line behind the complete ones is the beginning of a
line, or one line more. -/
private theorem readLines_part (represents : Represents json file channel) (index : Nat)
    (alert : Alert) {kept : Nat} (nonzero : kept ≠ 0) :
    (readLines (file.content ++ (line json index alert).take kept)).2 ≠ [] ∨
      (readLines (file.content ++ (line json index alert).take kept)).1.length =
        channel.lines.length + 1 := by
  have oneLine := json.oneLine _ (distinct_payload index alert)
  unfold line
  generalize json.dump (JsonLine.object (FileAlertChannel.payload index alert)) = text
    at oneLine ⊢
  by_cases inside : kept ≤ text.length
  · have clean : '\n' ∉ text.take kept := fun member => oneLine (List.mem_of_mem_take member)
    rw [List.take_append_of_le_length inside, represents.readLines clean]
    apply Or.inl
    intro empty
    have short := congrArg List.length empty
    rw [List.length_take, List.length_nil] at short
    omega
  · -- The whole line and its line break are there.
    have whole : file.content ++ (text ++ ['\n']).take kept =
        joinLines (texts json channel.lines ++ [text]) ++ [] := by
      rw [List.take_of_length_le (by simp; omega), represents.content]
      simp [joinLines]
    have clean : forall listed, listed ∈ texts json channel.lines ++ [text] -> '\n' ∉ listed := by
      intro listed member
      rcases List.mem_append.mp member with before | isLast
      · exact newline_not_mem_texts represents.payloads listed before
      · rw [List.mem_singleton.mp isLast]
        exact oneLine
    rw [whole, readLines_joinLines _ [] clean List.not_mem_nil]
    apply Or.inr
    rw [List.length_append, texts, List.length_map, List.length_singleton]

/-- A part of a line behind the counted ones is too much. -/
private theorem not_wellFormed_of_part (represents : Represents json file channel)
    (counts : channel.lines.length = channel.alertCount) (alert : Alert) {kept : Nat}
    (nonzero : kept ≠ 0) {torn : ReportFile} (alerts : List Alert)
    (content : torn.content = file.content ++ (line json (file.alertCount + 1) alert).take kept)
    (alertCount : torn.alertCount = file.alertCount) : ¬ WellFormed json torn alerts := by
  intro wellFormed
  have complete := wellFormed.complete
  have counted := wellFormed.counted
  rw [content] at complete counted
  rcases readLines_part represents (file.alertCount + 1) alert nonzero with begun | another
  · exact begun complete
  · rw [another, alertCount, represents.alertCount, counts] at counted
    omega

/-- A failed write that leaves something in the file or in the buffer spoils
the report, at the latest when the buffer is flushed. -/
private theorem not_wellFormed_of_torn {earlier : List (Alert × WriteResult)} {alert : Alert}
    {write : FailedWrite} (clean : forall attempt, attempt ∈ earlier -> LeavesNothing attempt)
    (left : ¬ (write.reached = 0 ∧ write.taken = 0)) (alerts : List Alert) :
    Exists fun flushed => ¬ WellFormed json
      ((ReportFile.sendAll json {} (earlier ++ [(alert, .failed write)])).close flushed)
      alerts := by
  have represents : Represents json _ _ := represents_new earlier clean
  have last : ReportFile.sendAll json {} (earlier ++ [(alert, .failed write)]) =
      (ReportFile.sendAll json {} earlier).send json alert (.failed write) := by
    simp [ReportFile.sendAll]
  rw [last]
  by_cases reached : write.reached = 0
  · -- Nothing has reached the file, so the buffer still has what it took.
    have taken : write.taken ≠ 0 := fun none => left ⟨reached, none⟩
    have relieved : write.relieved = 0 := by
      have bound := write.relieved_le
      omega
    refine ⟨write.taken,
      not_wellFormed_of_part represents (count_new earlier) alert taken alerts ?_ rfl⟩
    change (_ ++ List.take write.reached _) ++
      List.take write.taken (List.drop write.relieved (_ ++ _)) = _
    rw [reached, relieved, represents.pending, List.take_zero, List.append_nil, List.drop_zero,
      List.nil_append, List.take_take, Nat.min_self]
  · refine ⟨0,
      not_wellFormed_of_part represents (count_new earlier) alert reached alerts ?_ rfl⟩
    change (_ ++ List.take write.reached (_ ++ _)) ++ List.take 0 _ = _
    rw [List.take_zero, List.append_nil, represents.pending, List.nil_append]

/-- For every sequence of calls and every behaviour of the serialisation, the
stream and its last flush: the report is in order after each call, whether it
is closed then or not, if and only if no failed write leaves a character of its
line in the file or in the buffer. -/
theorem report_wellFormed_iff (json : Json.Library Json.Distinct)
    (attempts : List (Alert × WriteResult)) :
    (forall done, done <+: attempts -> forall flushed,
        WellFormed json ((ReportFile.sendAll json {} done).close flushed) (sent done)) ↔
      forall attempt, attempt ∈ attempts -> LeavesNothing attempt := by
  constructor
  · intro always
    induction attempts using List.reverseRecOn with
    | nil =>
        intro attempt member
        cases member
    | append_singleton earlier last inductionHypothesis =>
        have clean := inductionHypothesis fun done before =>
          always done (before.trans (List.prefix_append _ _))
        intro attempt member
        rcases List.mem_append.mp member with before | isLast
        · exact clean attempt before
        · rw [List.mem_singleton.mp isLast]
          rcases last with ⟨alert, result⟩
          intro write failed
          cases failed
          by_contra left
          rcases not_wellFormed_of_torn clean left (sent (earlier ++ [(alert, .failed write)]))
            with ⟨flushed, torn⟩
          exact torn (always _ (List.prefix_refl _) flushed)
  · intro clean done before flushed
    exact wellFormed_of_clean done
      (fun attempt member => clean attempt (before.subset member)) flushed

end Runs

private def transferAlert : Alert where
  customerId := 1
  ruleType := "large_transfer"
  message := "Large transfer detected"
  timestampMs := 1659373200000

/-- A flush that brings nothing to the file, behind a line that is in the
buffer as a whole. -/
private def nothingFlushed : FailedWrite where
  reached := 0
  taken := 1000
  relieved := 0
  relieved_le := Nat.le_refl 0

/-- The disk is full for one write and has room again for the next.  The count
is one, but the file has two lines, both with the index 1: the buffer still had
the line of the failed write. -/
theorem torn_line_in_report :
    (ReportFile.sendAll (Json.compact _) {}
        [(transferAlert, .failed nothingFlushed), (transferAlert, .written)]).alertCount = 1 ∧
      ((readLines (ReportFile.sendAll (Json.compact _) {}
        [(transferAlert, .failed nothingFlushed), (transferAlert, .written)]).content).1.map
          fun line => ((Json.read line).bind recover).map ReportedAlert.alertIndex) =
        [some 1, some 1] ∧
      ¬ WellFormed (Json.compact _) (ReportFile.sendAll (Json.compact _) {}
          [(transferAlert, .failed nothingFlushed), (transferAlert, .written)])
        (sent [(transferAlert, .failed nothingFlushed), (transferAlert, .written)]) := by
  refine ⟨by decide +kernel, by decide +kernel, fun wellFormed => ?_⟩
  exact absurd wellFormed.counted (by decide +kernel)

end ReportFile

end Backtest
end RiskSentinel
