import ScriptConsole.Buffer.Content
import ScriptConsole.Proofs.Json.RoundTrip
import ScriptConsole.Proofs.Text.Bytes
import ScriptConsole.System.Lane

/-!
What is sent arrives: commands, events and the content of the shared buffer are read back as they
were written, and a frame is one line, so that exactly one message arrives for each that is sent.
-/

namespace ScriptConsole

namespace Json

/-! ### One line of text -/

theorem inLine_decimal (n : Nat) : InLine (Text.decimal n) := by
  intro c hc
  have hdigit := Text.isDigit_of_mem_decimal hc
  constructor <;> (rintro rfl; exact absurd hdigit (by decide))

theorem inLine_of_isAlpha {s : List Char} (h : s.all Char.isAlpha = true) : InLine s := by
  intro c hc
  have halpha := List.all_eq_true.mp h c hc
  constructor <;> (rintro rfl; exact absurd halpha (by decide))

mutual

theorem inLine_write {depth : Nat} {j : Json} (hj : Plain depth j) : InLine j.write := by
  cases j with
  | null => exact inLine_of_isAlpha (by decide)
  | bool b => cases b <;> exact inLine_of_isAlpha (by decide)
  | str text => exact inLine_writeString text
  | number n =>
      obtain ⟨k, -, rfl⟩ : ∃ k < UInt64.size, n = .ofNat k := by
        cases depth <;> simpa only [Plain] using hj
      rw [write_ofNat]
      exact inLine_decimal k
  | array items =>
      cases depth with
      | zero => exact absurd hj (by simp [Plain])
      | succ depth =>
          have hitems : PlainItems depth items := by simpa only [Plain] using hj
          cases items with
          | nil => exact .cons (by decide) (.cons (by decide) (by rintro _ ⟨⟩))
          | cons item items =>
              exact .cons (by decide) ((inLine_write hitems.1).append (inLine_moreItems hitems.2))
  | object fields =>
      cases depth with
      | zero => exact absurd hj (by simp [Plain])
      | succ depth =>
          have hfields : PlainFields depth fields := by simpa only [Plain] using hj
          cases fields with
          | nil => exact .cons (by decide) (.cons (by decide) (by rintro _ ⟨⟩))
          | cons field fields =>
              refine .cons (by decide) ((inLine_writeString field.1).append (.cons (by decide) ?_))
              exact (inLine_write hfields.1).append (inLine_moreFields hfields.2)
termination_by (depth, 0, 0)

theorem inLine_moreItems {depth : Nat} {items : List Json} (hitems : PlainItems depth items) :
    InLine (writeMoreItems items) := by
  cases items with
  | nil => exact .cons (by decide) (by rintro _ ⟨⟩)
  | cons item items =>
      exact .cons (by decide) ((inLine_write hitems.1).append (inLine_moreItems hitems.2))
termination_by (depth, 1, items.length)

theorem inLine_moreFields {depth : Nat} {fields : List (String × Json)}
    (hfields : PlainFields depth fields) : InLine (writeMoreFields fields) := by
  cases fields with
  | nil => exact .cons (by decide) (by rintro _ ⟨⟩)
  | cons field fields =>
      refine .cons (by decide) ((inLine_writeString field.1).append (.cons (by decide) ?_))
      exact (inLine_write hfields.1).append (inLine_moreFields hfields.2)
termination_by (depth, 1, fields.length)

end

/-! ### Records -/

theorem writeMoreFields_last (fields : List (String × Json)) :
    ∃ inner, writeMoreFields fields = inner ++ ['\x7d'] := by
  induction fields with
  | nil => exact ⟨[], rfl⟩
  | cons field fields ih =>
      obtain ⟨inner, hinner⟩ := ih
      exact ⟨',' :: (writeString field.1 ++ ':' :: (field.2.write ++ inner)),
        by simp [writeMoreFields, hinner]⟩

theorem write_object (fields : List (String × Json)) :
    ∃ inner, (object fields).write = '\x7b' :: (inner ++ ['\x7d']) := by
  cases fields with
  | nil => exact ⟨[], rfl⟩
  | cons field fields =>
      obtain ⟨inner, hinner⟩ := writeMoreFields_last fields
      exact ⟨writeString field.1 ++ ':' :: (field.2.write ++ inner),
        by simp [Json.write, writeFields, hinner]⟩

theorem trim_braces (inner more : List Char) (hmore : Text.allBlank more = true) :
    Text.trim ('\x7b' :: (inner ++ ['\x7d']) ++ more) = '\x7b' :: (inner ++ ['\x7d']) := by
  have hstart : Text.trimStart ('\x7b' :: (inner ++ ['\x7d']) ++ more) =
      '\x7b' :: (inner ++ ['\x7d']) ++ more := rfl
  have hblank : ∀ c ∈ more.reverse, Text.isBlank c = true := fun c hc =>
    List.all_eq_true.mp hmore c (List.mem_reverse.mp hc)
  rw [Text.trim, hstart, Text.trimEnd, List.reverse_append, List.dropWhile_append_of_pos hblank]
  simp [Text.isBlank]

/-- A message that is written as a plain object and read back. -/
structure Faithful {α : Type} (write : α → Json) (read? : Json → Option α) (a : α) : Prop where
  object : ∃ fields, write a = .object fields
  plain : Plain 127 (write a)
  reads : read? (write a) = some a

theorem Faithful.braces {α : Type} {write : α → Json} {read? : Json → Option α} {a : α}
    (h : Faithful write read? a) : ∃ inner, (write a).write = '\x7b' :: (inner ++ ['\x7d']) := by
  obtain ⟨fields, hfields⟩ := h.object
  rw [hfields]
  exact write_object fields

end Json

namespace Content

theorem faithful (content : Content) : Json.Faithful write read? content := by
  cases content with
  | empty => exact ⟨⟨_, rfl⟩, ⟨trivial, trivial⟩, rfl⟩
  | closed => exact ⟨⟨_, rfl⟩, ⟨trivial, trivial⟩, rfl⟩
  | line request sequence text =>
      refine ⟨⟨_, rfl⟩, ⟨trivial, ⟨_, request.toNat_lt_size, rfl⟩,
        ⟨_, sequence.toNat_lt_size, rfl⟩, trivial, trivial⟩, ?_⟩
      change (do
        return line (← (Json.Number.ofNat request.toNat).toUInt64?)
          (← (Json.Number.ofNat sequence.toNat).toUInt64?) text) = _
      rw [Json.toUInt64_ofNat, Json.toUInt64_ofNat]
      rfl

theorem decode_encode (content : Content) : decode content.encode = content := by
  have h := content.faithful
  obtain ⟨inner, hinner⟩ := h.braces
  have htrim : Text.trim content.encode = content.encode := by
    have := Json.trim_braces inner [] rfl
    rwa [List.append_nil, ← hinner] at this
  rw [decode, htrim, encode, Json.read_write h.plain]
  simp only [h.reads, Option.getD_some]

end Content

namespace Command

theorem faithful (command : Command) : Json.Faithful write read? command := by
  cases command with
  | run code => exact ⟨⟨_, rfl⟩, ⟨trivial, trivial, trivial⟩, rfl⟩
  | init setup =>
      obtain ⟨base, url, packages, timeout, poll⟩ := setup
      refine ⟨⟨_, rfl⟩, ⟨trivial, trivial, trivial, Json.plain_ofTexts packages 125,
        Json.plain_ofOption timeout 126, Json.plain_ofOption poll 126, trivial⟩, ?_⟩
      let fields : List (String × Json) := [("baseUrl", .str base), ("sharedBufferUrl", .str url),
        ("packages", .ofTexts packages), ("inputTimeoutMs", .ofOption Json.ofUInt64 timeout),
        ("pollIntervalMs", .ofOption Json.ofUInt64 poll)]
      have hsetup : readSetup? (.named fields) = some ⟨base, url, packages, timeout, poll⟩ := by
        change (do
          let packages ← Json.toTexts? (.ofTexts packages)
          let timeout ← Json.toOption? Json.toUInt64? (.ofOption Json.ofUInt64 timeout)
          let poll ← Json.toOption? Json.toUInt64? (.ofOption Json.ofUInt64 poll)
          return (⟨base, url, packages, timeout, poll⟩ : Setup)) = _
        rw [Json.toTexts_ofTexts, Json.toOption_ofOption, Json.toOption_ofOption]
        rfl
      change (do return init (← readSetup? (.named fields))) = _
      rw [hsetup]
      rfl

end Command

namespace Event

theorem faithful (event : Event) : Json.Faithful write read? event := by
  cases event with
  | stdout text => exact ⟨⟨_, rfl⟩, ⟨trivial, trivial, trivial⟩, rfl⟩
  | stderr text => exact ⟨⟨_, rfl⟩, ⟨trivial, trivial, trivial⟩, rfl⟩
  | init success error =>
      cases error with
      | none => exact ⟨⟨_, rfl⟩, ⟨trivial, trivial, trivial⟩, rfl⟩
      | some text => exact ⟨⟨_, rfl⟩, ⟨trivial, trivial, trivial, trivial⟩, rfl⟩
  | run success output error =>
      cases output with
      | none =>
          cases error with
          | none => exact ⟨⟨_, rfl⟩, ⟨trivial, trivial, trivial⟩, rfl⟩
          | some text => exact ⟨⟨_, rfl⟩, ⟨trivial, trivial, trivial, trivial⟩, rfl⟩
      | some result =>
          cases error with
          | none => exact ⟨⟨_, rfl⟩, ⟨trivial, trivial, trivial, trivial⟩, rfl⟩
          | some text => exact ⟨⟨_, rfl⟩, ⟨trivial, trivial, trivial, trivial, trivial⟩, rfl⟩
  | input request prompt =>
      cases prompt with
      | none =>
          refine ⟨⟨_, rfl⟩, ⟨trivial, ⟨_, request.toNat_lt_size, rfl⟩, trivial⟩, ?_⟩
          change (do return input (← (Json.Number.ofNat request.toNat).toUInt64?) none) = _
          rw [Json.toUInt64_ofNat]
          rfl
      | some text =>
          refine ⟨⟨_, rfl⟩, ⟨trivial, ⟨_, request.toNat_lt_size, rfl⟩, trivial, trivial⟩, ?_⟩
          change (do return input (← (Json.Number.ofNat request.toNat).toUInt64?) (some text)) = _
          rw [Json.toUInt64_ofNat]
          rfl

end Event

namespace Wire

variable {α : Type} {format : Format α} {message : α}

theorem Format.decode_frame (h : Json.Faithful format.write format.read? message) :
    format.decode (format.write message).write = .ok message := by
  obtain ⟨inner, hinner⟩ := h.braces
  have htrim : Text.trim (format.write message).write = (format.write message).write := by
    have := Json.trim_braces inner [] rfl
    rwa [List.append_nil, ← hinner] at this
  simp only [Format.decode, htrim, Json.read_write h.plain, h.reads]

/-- The frames of messages, one after the other. -/
def Format.stream (format : Format α) : List α → String
  | [] => ""
  | message :: messages => format.encode message ++ format.stream messages

theorem Format.stream_append (messages more : List α) :
    format.stream (messages ++ more) = format.stream messages ++ format.stream more := by
  induction messages with
  | nil => exact String.empty_append.symm
  | cons message messages ih =>
      rw [List.cons_append, stream, stream, ih, String.append_assoc]

/-- A line of text that carries no message: it is blank, or it cannot be decoded. -/
structure Format.IsNoise (format : Format α) (text : String) : Prop where
  line : '\n' ∉ text.toList
  empty : Text.allBlank text.toList = true ∨ ∃ cause, format.decode text.toList = .error cause

/-- A text with lines inserted between its lines, before them and behind them, each of which
carries no message. The last one may lack its end. -/
inductive Padded (format : Format α) : String → String → Prop where
  | empty : Padded format "" ""
  | line {line text padded : String} (hline : '\n' ∉ line.toList)
      (h : Padded format text padded) :
      Padded format (line ++ "\n" ++ text) (line ++ "\n" ++ padded)
  | noise {line text padded : String} (hline : format.IsNoise line)
      (h : Padded format text padded) : Padded format text (line ++ "\n" ++ padded)
  | last {line : String} (hline : format.IsNoise line) : Padded format "" line

theorem messages_chomp (line : String) (lines : List (Except IoError String)) :
    messages format (.ok (Text.chomp line) :: lines) = messages format (.ok line :: lines) := by
  have hdecode : format.decode (Text.dropReturn line.toList) = format.decode line.toList := by
    simp only [Format.decode, Text.trim_dropReturn]
  rw [messages, messages, Text.chomp, String.toList_ofList, Text.allBlank_dropReturn, hdecode]

theorem Format.IsNoise.messages {line : String} (h : format.IsNoise line)
    (lines : List (Except IoError String)) :
    messages format (.ok line :: lines) = messages format lines := by
  rw [Wire.messages]
  split
  · rfl
  · next hblank =>
      obtain ⟨cause, hcause⟩ := h.empty.resolve_left hblank
      rw [hcause]

theorem Padded.messages {text padded : String} (h : Padded format text padded) :
    messages format (Text.streamLines (Text.toBytes padded)) =
      messages format (Text.streamLines (Text.toBytes text)) := by
  induction h with
  | empty => rfl
  | line hline h ih =>
      rw [Text.streamLines_cons hline, Text.streamLines_cons hline]
      simp only [Wire.messages, ih]
  | noise hline h ih => rw [Text.streamLines_cons hline.line, messages_chomp, hline.messages, ih]
  | last hline =>
      rw [Text.streamLines_last hline.line]
      split
      · rw [Text.streamLines_empty]
      · rw [hline.messages, Text.streamLines_empty]

theorem Padded.readable {text padded : String} (h : Padded format text padded) :
    ∃ lines : List String, Text.streamLines (Text.toBytes padded) = lines.map .ok := by
  induction h with
  | empty => exact ⟨[], Text.streamLines_empty⟩
  | line hline h ih =>
      obtain ⟨lines, hlines⟩ := ih
      exact ⟨_ :: lines, by rw [Text.streamLines_cons hline, hlines, List.map_cons]⟩
  | noise hline h ih =>
      obtain ⟨lines, hlines⟩ := ih
      exact ⟨_ :: lines, by rw [Text.streamLines_cons hline.line, hlines, List.map_cons]⟩
  | @last line hline =>
      rw [Text.streamLines_last hline.line]
      split
      · exact ⟨[], rfl⟩
      · exact ⟨[line], rfl⟩

theorem messages_encode {message : α} (h : Json.Faithful format.write format.read? message)
    (rest : String) :
    messages format (Text.streamLines (Text.toBytes (format.encode message ++ rest))) =
      message :: messages format (Text.streamLines (Text.toBytes rest)) := by
  obtain ⟨inner, hinner⟩ := h.braces
  have hblank : Text.allBlank (format.write message).write = false := by
    rw [hinner]
    rfl
  have hline : '\n' ∉ (String.ofList (format.write message).write).toList := by
    rw [String.toList_ofList]
    exact fun hmem => (Json.inLine_write h.plain _ hmem).1 rfl
  rw [Format.encode, String.ofList_append, Text.streamLines_cons hline, messages_chomp]
  simp only [messages, String.toList_ofList, hblank, Bool.false_eq_true, if_false,
    Format.decode_frame h]

theorem Padded.encode {message : α} (h : Json.Faithful format.write format.read? message)
    {text padded : String} (hpadded : Padded format text padded) :
    Padded format (format.encode message ++ text) (format.encode message ++ padded) := by
  rw [Format.encode, String.ofList_append]
  refine .line ?_ hpadded
  rw [String.toList_ofList]
  exact fun hmem => (Json.inLine_write h.plain _ hmem).1 rfl

/-- The messages that were sent are read, also where lines were inserted that carry none. -/
theorem Padded.messages_stream
    (hfaithful : ∀ message : α, Json.Faithful format.write format.read? message)
    {sent : List α} {padded : String} (h : Padded format (format.stream sent) padded) :
    Wire.messages format (Text.streamLines (Text.toBytes padded)) = sent := by
  rw [h.messages]
  clear h
  induction sent with
  | nil => rw [Format.stream, Text.streamLines_empty, Wire.messages]
  | cons message sent ih => rw [Format.stream, messages_encode (hfaithful message), ih]

/-- Exactly the message that is sent arrives. -/
theorem carry_faithful (h : Json.Faithful format.write format.read? message) (channel : Channel) :
    channel.carry format message = [message] := by
  cases channel with
  | direct => rfl
  | piped =>
      have hread := messages_encode h ""
      rwa [String.append_empty, Text.streamLines_empty] at hread

end Wire

@[simp]
theorem Channel.carry_command (channel : Channel) (command : Command) :
    channel.carry Command.format command = [command] :=
  Wire.carry_faithful (Command.faithful command) channel

@[simp]
theorem Channel.carry_event (channel : Channel) (event : Event) :
    channel.carry Event.format event = [event] :=
  Wire.carry_faithful (Event.faithful event) channel

end ScriptConsole
