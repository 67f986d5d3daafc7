import ScriptConsole.Proofs.Buffer.Shared
import ScriptConsole.Proofs.Text.Lines

/-!
What stands in the file of a buffer. Only a complete content is taken for one: a part of it, and
any other text, counts as nothing. Bytes that are no text at all cannot be read, and a worker that
waits for a line fails at them.
-/

namespace ScriptConsole

namespace Content

/-- The text, without its outer blanks, is a document that says this content. -/
def Says (raw : List Char) (content : Content) : Prop :=
  ∃ j, Json.Document j (Text.trim raw) ∧ read? j = some content

theorem decode_of_says {raw : List Char} {content : Content} (h : Says raw content) :
    decode raw = content := by
  obtain ⟨j, hdocument, hread⟩ := h
  rw [decode, Json.read_iff.mpr hdocument]
  simp only [hread, Option.getD_some]

theorem decode_of_not_says {raw : List Char} (h : ∀ content, ¬ Says raw content) :
    decode raw = .empty := by
  rw [decode]
  split
  · rfl
  · next j hread =>
    cases hcontent : read? j with
    | none => rfl
    | some content => exact absurd ⟨j, Json.read_iff.mp hread, hcontent⟩ (h content)

theorem decode_append_blank {before after : List Char} (hbefore : Text.allBlank before = true)
    (hafter : Text.allBlank after = true) (raw : List Char) :
    decode (before ++ (raw ++ after)) = decode raw := by
  rw [decode, decode, Text.trim_blank_append hbefore, Text.trim_append_blank raw hafter]

/-- A part of a stored content is never taken for a content, wherever it breaks off and whatever
blanks are around it, and the complete text is taken for the content. -/
theorem torn_content_is_empty (content : Content) {before after : List Char}
    (hbefore : Text.allBlank before = true) (hafter : Text.allBlank after = true) :
    (∀ part rest, content.encode = part ++ rest → rest ≠ [] →
      decode (before ++ (part ++ after)) = .empty) ∧
    decode (before ++ (content.encode ++ after)) = content := by
  constructor
  · intro part rest hsplit hrest
    have hstart : Text.startsBlank part = false := by
      obtain ⟨inner, hinner⟩ := content.faithful.braces
      rw [encode, hinner] at hsplit
      cases part with
      | nil => rfl
      | cons c part =>
          rw [← (List.cons.inj hsplit).1]
          rfl
    obtain ⟨gap, hpart⟩ := Text.exists_trim_append hstart
    have hfull : Json.Writes (.value .strict content.write) (Text.trim part ++ (gap ++ rest)) := by
      rw [← List.append_assoc, ← hpart, ← hsplit]
      exact Json.writes_write rfl content.faithful.plain
    have hmore : gap ++ rest ≠ [] := fun hnil => hrest (List.append_eq_nil_iff.mp hnil).2
    rw [decode_append_blank hbefore hafter]
    apply decode_of_not_says
    rintro found ⟨j, hdocument, hread⟩
    obtain ⟨n, rfl⟩ := Json.exists_number_of_cut hfull hmore hdocument
    cases hread
  · rw [decode_append_blank hbefore hafter, decode_encode]

/-- A line that holds the text of a content, broken off before its last brace. -/
theorem torn_content_is_empty_before_the_end :
    decode "\n\x7b\"state\":\"line\",\"request\":0,\"sequence\":1,\"text\":\"\x7b\x7d\" ".toList =
      .empty :=
  (@torn_content_is_empty (.line 0 1 "{}") ['\n'] [' '] rfl rfl).1
    "\x7b\"state\":\"line\",\"request\":0,\"sequence\":1,\"text\":\"\x7b\x7d\"".toList "\x7d".toList
    (by decide +kernel) (by decide)

end Content

namespace FileBuffer

variable {buffer : FileBuffer} {files : Files} {bytes : List UInt8}

theorem read_of_text {raw : String} (h : files.readBytes buffer.path = .ok (Text.toBytes raw)) :
    buffer.read files = .ok (Content.decode raw.toList) := by
  simp only [read, Files.readText, h, Text.ofBytes_toBytes, bind, Except.bind, pure, Except.pure]

theorem read_of_no_text (h : files.readBytes buffer.path = .ok bytes)
    (hnone : ∀ raw, bytes ≠ Text.toBytes raw) : buffer.read files = .error (.io .notUtf8) := by
  have hbytes : Text.ofBytes? bytes = none := by
    rw [Option.eq_none_iff_forall_ne_some]
    exact fun raw hraw => hnone raw (Text.ofBytes?_eq_some_iff.mp hraw)
  simp only [read, Files.readText, h, hbytes, bind, Except.bind]
  rfl

theorem look_ne_fault (wait : Bridge.Wait) (deadline now : Nat) (content : Content)
    (fault : BufferError) :
    wait.look deadline now (.ok content) ≠ .ended (.error (.buffer fault)) wait.bridge := by
  intro hfails
  simp only [Bridge.Wait.look] at hfails
  split at hfails
  · cases content with
    | empty => cases hfails
    | closed => cases hfails
    | line request sequence text =>
        simp only [Bridge.Wait.receive] at hfails
        split at hfails <;> cases hfails
  · split at hfails <;> cases hfails

/-- Whatever bytes are in the file, what is read is the content that they say, or nothing if they
are a text that says none; bytes that are no text are a fault. They alone make a worker fail that
waits for a line and looks at the buffer. -/
theorem read_stored (hbytes : files.readBytes buffer.path = .ok bytes) :
    (∀ raw content, bytes = Text.toBytes raw → Content.Says raw.toList content →
      buffer.read files = .ok content) ∧
    (∀ raw, bytes = Text.toBytes raw → (∀ content, ¬ Content.Says raw.toList content) →
      buffer.read files = .ok .empty) ∧
    ((∀ raw, bytes ≠ Text.toBytes raw) → buffer.read files = .error (.io .notUtf8)) ∧
    ∀ (wait : Bridge.Wait) (deadline now : Nat),
      (∃ fault, wait.look deadline now (buffer.read files) =
        .ended (.error (.buffer fault)) wait.bridge) ↔ ∀ raw, bytes ≠ Text.toBytes raw := by
  refine ⟨?_, ?_, read_of_no_text hbytes, ?_⟩
  · rintro raw content rfl hsays
    rw [read_of_text hbytes, Content.decode_of_says hsays]
  · rintro raw rfl hnone
    rw [read_of_text hbytes, Content.decode_of_not_says hnone]
  · intro wait deadline now
    constructor
    · rintro ⟨fault, hfails⟩ raw rfl
      rw [read_of_text hbytes] at hfails
      exact look_ne_fault wait deadline now _ fault hfails
    · intro hnone
      rw [read_of_no_text hbytes hnone]
      exact ⟨_, rfl⟩

theorem read_stored_closed :
    (⟨⟨[Path.slash, 97]⟩, ⟨25⟩⟩ : FileBuffer).read
      ⟨[([[97]], .file (Text.toBytes " \x7b\"state\": \"closed\"\x7d\n"))], ⟨[Path.slash]⟩⟩ =
        .ok .closed := by
  refine (@read_stored ⟨⟨[Path.slash, 97]⟩, ⟨25⟩⟩ _ _ rfl).1 _ .closed rfl ?_
  exact ⟨.object [("state", .str "closed")], Json.read_iff.mp (by cbv), by rfl⟩

/-- A byte that begins no character is a fault, and not nothing. -/
theorem stray_byte_is_a_fault :
    (⟨⟨[Path.slash, 97]⟩, ⟨25⟩⟩ : FileBuffer).read
      ⟨[([[97]], .file [0xFF])], ⟨[Path.slash]⟩⟩ = .error (.io .notUtf8) := by
  rfl

end FileBuffer
end ScriptConsole
