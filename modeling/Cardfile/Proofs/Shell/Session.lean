import Cardfile.Shell
import Cardfile.Proofs.Shell.Commands
import Cardfile.Proofs.Text.Lines
import Cardfile.Proofs.Text.Utf8
import Mathlib
/-!
# The shell — what it writes for its input

What a line is answered is said of its first word and of what stands
after it (`Responds`), and what is written for an input of its lines, one
after the other (`Transcribes`). The shell writes that and nothing else
(`session_eq_iff`): no line is answered by what stands on another, and no
failing command ends it.
-/

namespace Cardfile

namespace Text

/-- The lower case of ASCII is that of the core library. -/
theorem asciiLower_eq_toLower : asciiLower = Char.toLower := by
  funext c
  rw [asciiLower, Char.toLower]
  by_cases h : c.val ≥ 'A'.val ∧ c.val ≤ 'Z'.val
  · have hle : 'A' ≤ c ∧ c ≤ 'Z' := h
    have hhigh : c.toNat ≤ 90 := h.2
    rw [if_pos hle, dif_pos h, Char.ofNat, dif_pos (Or.inl (by omega))]
    apply Char.toNat_inj.1
    show c.toNat + 32 = (c.toNat + 32) % 2 ^ 32
    omega
  · have hnot : ¬ ('A' ≤ c ∧ c ≤ 'Z') := h
    rw [if_neg hnot, dif_neg h]

end Text

namespace Shell

open Text Query Command

variable {store : Store} {line text response : String}

/-! ## Words -/

/-- The first word of the line. -/
def firstWord (line : String) : String :=
  String.ofList ((line.toList.dropWhile isBlank).takeWhile fun c => !isBlank c)

/-- What stands after the first word. -/
def afterWord (line : String) : String :=
  String.ofList ((line.toList.dropWhile isBlank).dropWhile fun c => !isBlank c)

/-- A line is taken apart where its first word ends. -/
theorem words_of_append {word rest : List Char} (hline : trimFront line.toList = word ++ rest)
    (hword : ∀ c ∈ word, (!isBlank c) = true) (hrest : Stops (fun c => !isBlank c) rest) :
    firstWord line = String.ofList word ∧ afterWord line = String.ofList rest := by
  rw [trimFront] at hline
  rw [firstWord, afterWord, hline, takeWhile_append hword hrest, dropWhile_append hword hrest]
  exact ⟨rfl, rfl⟩

/-- White space does not go on with a word. -/
theorem stops_of_isSpace {w : List Char} (hw : IsSpace w) : Stops (fun c => !isBlank c) w :=
  hw.stops fun hc => by rw [hc]; rfl

/-- **The shell takes a line apart so**, and its commands see what stands
after the first word. -/
theorem words_eq (line : String) :
    String.ofList (words line).1 = firstWord line ∧
      seen (words line).2 = seen (some (afterWord line)) := by
  obtain ⟨w, hw, hfront⟩ := exists_trimFront line.toList
  obtain ⟨word, rest, htrim, hword, hrest⟩ : ∃ word rest, trim line.toList = word ++ rest ∧
      (∀ c ∈ word, (!isBlank c) = true) ∧ Stops (fun c => !isBlank c) rest :=
    ⟨_, _, List.takeWhile_append_dropWhile.symm,
      fun _ hc => List.mem_takeWhile_imp (p := fun c => !isBlank c) hc, stops_dropWhile _⟩
  rw [htrim, List.append_assoc] at hfront
  obtain ⟨hfirst, hafter⟩ :=
    words_of_append hfront hword (hrest.append fun _ => stops_of_isSpace hw)
  have hnone : ∀ c ∈ word, isBlank c = false := fun c hc => by simpa using hword c hc
  rw [hfirst, hafter, words]
  cases rest with
  | nil =>
    -- there is no white space left to cut at, and none is seen
    rw [htrim, List.append_nil, cutAt_of_forall hnone]
    refine ⟨rfl, ?_⟩
    simp only [seen, Option.getD_some, String.toList_ofList, List.nil_append, trim_eq_nil_iff.2 hw]
    rfl
  | cons c argument =>
    have hc : isBlank c = true := by simpa using stops_cons.1 hrest
    rw [htrim, cutAt_append hnone hc]
    refine ⟨rfl, ?_⟩
    have hspace : IsSpace [c] := List.forall_mem_singleton.2 hc
    simp only [seen, Option.getD_some, String.toList_ofList, trim_trim]
    rw [List.cons_append, ← List.singleton_append, trim_space_append hspace, trim_append_space hw]

/-! ## Responses -/

/-- **The commands of the shell**, by name. -/
inductive Named :
    String → (Store → Option String → Format → Except CommandFault Answer) → Prop
  | query : Named "query" Command.query
  | indexQuery : Named "indexquery" Command.indexQuery

/-- **What is told of an outcome**: the text of the answer, or the message
of the fault. -/
inductive Told : Except CommandFault Answer → String → Prop
  | answer {shown : String} : Told (.ok (.text shown)) shown
  | fault {fault : CommandFault} {message : String} :
      fault.report.message = some message → Told (.error fault) message

/-- The line ends the shell. -/
def Exits (line : String) : Prop := (firstWord line).toLower = "exit"

instance decidableExits : DecidablePred Exits := fun line => decEq (firstWord line).toLower "exit"

/-- **What a line is answered** by a shell on the store. -/
inductive Responds (store : Store) (line : String) : String → Prop
  /-- A command takes what stands after its name. -/
  | command {command : Store → Option String → Format → Except CommandFault Answer}
      {response : String} : Named (firstWord line) command →
      Told (command store (some (afterWord line)) .table) response →
      Responds store line response
  /-- There are no other commands. -/
  | unknown : ¬ Exits line → (∀ command, ¬ Named (firstWord line) command) →
      Responds store line "Unknown command!"

section Commands

variable {name : String} {command : Store → Option String → Format → Except CommandFault Answer}

theorem Named.listed (h : Named name command) : Listed command := by
  cases h with
  | query => exact listed_query
  | indexQuery => exact listed_indexQuery

/-- The names are words, and none of them ends the shell. -/
theorem Named.isWord (h : Named name command) :
    name ≠ "" ∧ (∀ c ∈ name.toList, (!isBlank c) = true) ∧
      name.toList.map Char.toLower ≠ "exit".toList := by
  have hascii : ∀ c ∈ name.toList, 0x21 ≤ c.toNat ∧ c.toNat ≤ 0x7E := by
    cases h <;> simp
  refine ⟨?_, fun c hc => ?_, ?_⟩
  · cases h <;> decide
  · rw [isBlank_of_ascii (hascii c hc).1 (hascii c hc).2]
    rfl
  · cases h <;> decide

/-- A command is found by its name. -/
theorem lookup_commands : commands.lookup name = some command ↔ Named name command := by
  constructor
  · intro h
    by_cases hindex : name = "indexquery"
    · subst hindex
      cases h
      exact .indexQuery
    by_cases hquery : name = "query"
    · subst hquery
      cases h
      exact .query
    · simp only [commands, List.lookup, beq_false_of_ne hindex, beq_false_of_ne hquery] at h
      cases h
  · intro h
    cases h <;> rfl

/-- A command in a listing is told as it answers. -/
theorem told_iff (h : Listed command) {e : Option String} :
    Told (command store e .table) response ↔ answerText (command store e .table) = response := by
  cases houtcome : command store e .table with
  | ok answer =>
    obtain ⟨shown, rfl⟩ := h.text houtcome
    constructor
    · rintro ⟨⟩
      rfl
    · rintro rfl
      exact .answer
  | error fault =>
    obtain ⟨message, hmessage⟩ := fault.exists_message
    have htext : answerText (.error fault) = message := by
      rw [answerText, failureText, hmessage]
      rfl
    rw [htext]
    constructor
    · rintro ⟨⟩
      next h => exact Option.some.inj (hmessage.symm.trans h)
    · rintro rfl
      exact .fault hmessage

theorem exits_iff : Exits line ↔ (firstWord line).toList.map Char.toLower = "exit".toList := by
  rw [Exits, ← String.toList_inj, String.toLower, String.toList_map]

/-- The word that ends the shell is found in any case. -/
theorem sameIgnoringCase_iff :
    sameIgnoringCase (words line).1 exitWord.toList = true ↔ Exits line := by
  have hexit : exitWord.toList.map Char.toLower = "exit".toList := by decide
  rw [exits_iff, ← (words_eq line).1, sameIgnoringCase, beq_iff_eq, asciiLower_eq_toLower, hexit]
  simp only [String.toList_ofList]

/-- The line is answered by its first word. -/
theorem respond_eq (store : Store) (line : String) :
    respond store line =
      if Exits line then none
      else match commands.lookup (firstWord line) with
        | none => some unknownText
        | some command => some (answerText (command store (words line).2 .table)) := by
  have hexit : sameIgnoringCase (words line).1 exitWord.toList = true ↔ Exits line :=
    sameIgnoringCase_iff
  rw [respond, ← (words_eq line).1]
  generalize words line = parts at hexit ⊢
  obtain ⟨name, argument⟩ := parts
  by_cases hexits : Exits line
  · rw [if_pos hexits]
    exact if_pos (hexit.2 hexits)
  · rw [if_neg hexits]
    exact if_neg (hexit.not.2 hexits)

theorem respond_eq_none_iff : respond store line = none ↔ Exits line := by
  rw [respond_eq]
  split_ifs with hexits
  · exact iff_of_true rfl hexits
  · refine iff_of_false ?_ hexits
    split <;> exact nofun

/-- **The response is the one told**, if the line does not end the shell. -/
theorem respond_eq_some_iff :
    respond store line = some response ↔ Responds store line response := by
  rw [respond_eq]
  constructor
  · intro h
    split_ifs at h with hexits
    split at h <;> rename_i hlookup <;> cases h
    · refine .unknown hexits fun command hnamed => ?_
      rw [lookup_commands.2 hnamed] at hlookup
      cases hlookup
    · next command =>
      have hnamed := lookup_commands.1 hlookup
      rw [hnamed.listed.congr (words_eq line).2]
      exact .command hnamed ((told_iff hnamed.listed).2 rfl)
  · intro h
    cases h with
    | command hnamed htold =>
      have hexits : ¬ Exits line := exits_iff.not.2 hnamed.isWord.2.2
      rw [if_neg hexits, lookup_commands.2 hnamed]
      simp only
      rw [hnamed.listed.congr (words_eq line).2, (told_iff hnamed.listed).1 htold]
    | unknown hexits hnone =>
      rw [if_neg hexits]
      cases hlookup : commands.lookup (firstWord line) with
      | none => rfl
      | some command => exact absurd (lookup_commands.1 hlookup) (hnone command)

end Commands

/-! ## Transcripts -/

/-- **What a shell writes for its lines.** -/
inductive Transcribes (store : Store) : List (List UInt8) → Transcript → Prop
  /-- The end of the input ends the line of the prompt. -/
  | ended : Transcribes store [] { output := "> \nGoodbye!\n", fault := none }
  /-- Octets that are no text are a fault. -/
  | unreadable {octets : List UInt8} {rest : List (List UInt8)} :
      (∀ line : String, line.toUTF8.data.toList ≠ octets) →
      Transcribes store (octets :: rest) { output := "> ", fault := some .unreadable }
  /-- Nothing is read after a line that ends the shell. -/
  | exit {line : String} {octets : List UInt8} {rest : List (List UInt8)} :
      line.toUTF8.data.toList = octets → Exits line →
      Transcribes store (octets :: rest) { output := "> Goodbye!\n", fault := none }
  /-- After every other line the shell goes on. -/
  | response {line response : String} {octets : List UInt8} {rest : List (List UInt8)}
      {t : Transcript} :
      line.toUTF8.data.toList = octets → Responds store line response →
      Transcribes store rest t →
      Transcribes store (octets :: rest)
        { output := "> " ++ (response ++ "\n") ++ t.output, fault := t.fault }

/-- A line is read if its octets are those of a text. -/
theorem decode_eq_ok_iff {octets : List UInt8} :
    Utf8.decode octets = .ok line.toList ↔ line.toUTF8.data.toList = octets := by
  rw [Utf8.decode_eq_ok_iff, Utf8.toUTF8_eq_encode, eq_comm]

/-- The reply to a line that ends the shell. -/
theorem reply_of_exits (h : Exits line) :
    reply store (some line.toUTF8.data.toList) = { output := farewell, goesOn := false } := by
  simp only [reply, decode_eq_ok_iff.2 rfl, String.ofList_toList, respond_eq_none_iff.2 h]

/-- The reply to every other line is its response. -/
theorem reply_of_responds (h : Responds store line response) :
    reply store (some line.toUTF8.data.toList) =
      { output := response ++ "\n", goesOn := true } := by
  simp only [reply, decode_eq_ok_iff.2 rfl, String.ofList_toList, respond_eq_some_iff.2 h]

/-- The reply to octets that are no text. -/
theorem reply_of_forall_ne {octets : List UInt8}
    (h : ∀ line : String, line.toUTF8.data.toList ≠ octets) :
    reply store (some octets) = { output := "", goesOn := false, fault := some .unreadable } := by
  cases hdecode : Utf8.decode octets with
  | error n => simp only [reply, hdecode]
  | ok s =>
    have hline : (String.ofList s).toUTF8.data.toList = octets :=
      decode_eq_ok_iff.1 (by rw [hdecode, String.toList_ofList])
    exact absurd hline (h _)

/-- **The shell writes one transcript** for its lines. -/
theorem session_eq_iff {lines : List (List UInt8)} {t : Transcript} :
    session store lines = t ↔ Transcribes store lines t := by
  constructor
  · rintro rfl
    induction lines with
    | nil => exact .ended
    | cons octets rest ih =>
      rw [session]
      by_cases hoctets : ∃ line : String, line.toUTF8.data.toList = octets
      · obtain ⟨line, rfl⟩ := hoctets
        cases hrespond : respond store line with
        | none =>
          have hexits := respond_eq_none_iff.1 hrespond
          rw [reply_of_exits hexits]
          exact .exit rfl hexits
        | some response =>
          have hresponds := respond_eq_some_iff.1 hrespond
          rw [reply_of_responds hresponds]
          exact .response rfl hresponds ih
      · rw [reply_of_forall_ne (not_exists.1 hoctets)]
        exact .unreadable (not_exists.1 hoctets)
  · intro h
    induction h with
    | ended => rfl
    | unreadable hnone =>
      rw [session, reply_of_forall_ne hnone]
      rfl
    | exit hline hexits =>
      subst hline
      rw [session, reply_of_exits hexits]
      rfl
    | response hline hresponds _ ih =>
      subst hline
      rw [session, reply_of_responds hresponds, ← ih]
      rfl

/-! ## White space -/

/-- White space on either side of the word and of the text after it is
not seen. -/
theorem words_of_spaces {w v w' word : String} (text : String) (hw : IsSpace w.toList)
    (hv : IsSpace v.toList) (hne : v ≠ "") (hw' : IsSpace w'.toList) (hword : word ≠ "")
    (hnone : ∀ c ∈ word.toList, (!isBlank c) = true) :
    firstWord (w ++ word ++ v ++ text ++ w') = word ∧
      seen (some (afterWord (w ++ word ++ v ++ text ++ w'))) = seen (some text) := by
  have hrest : Stops (fun c => !isBlank c) (v.toList ++ (text.toList ++ w'.toList)) :=
    (stops_of_isSpace hv).append fun hnil => absurd (String.toList_eq_nil_iff.1 hnil) hne
  have hstop : Stops isBlank (word.toList ++ (v.toList ++ (text.toList ++ w'.toList))) := by
    refine Stops.append (fun c hc => ?_) fun hnil => absurd (String.toList_eq_nil_iff.1 hnil) hword
    simpa using hnone c (List.mem_of_mem_head? hc)
  have hline : trimFront (w ++ word ++ v ++ text ++ w').toList =
      word.toList ++ (v.toList ++ (text.toList ++ w'.toList)) := by
    simp only [String.toList_append, List.append_assoc]
    exact trimFront_append hw hstop
  obtain ⟨hfirst, hafter⟩ := words_of_append hline hnone hrest
  rw [hfirst, hafter, String.ofList_toList]
  refine ⟨rfl, ?_⟩
  simp only [seen, Option.getD_some, String.toList_ofList]
  rw [trim_space_append hv, trim_append_space hw']

/-- **A command is answered as it answers**, whatever white space is
around its name and its expression. -/
theorem responds_iff_told {command : Store → Option String → Format → Except CommandFault Answer}
    {w v w' name : String} (h : Named name command) (hw : IsSpace w.toList)
    (hv : IsSpace v.toList) (hne : v ≠ "") (hw' : IsSpace w'.toList) :
    Responds store (w ++ name ++ v ++ text ++ w') response ↔
      Told (command store (some text) .table) response := by
  obtain ⟨hword, hnone, -⟩ := h.isWord
  obtain ⟨hfirst, hafter⟩ := words_of_spaces text hw hv hne hw' hword hnone
  rw [← h.listed.congr hafter]
  constructor
  · intro hresponds
    cases hresponds with
    | command hnamed htold =>
      rw [hfirst] at hnamed
      obtain rfl : command = _ :=
        Option.some.inj ((lookup_commands.2 h).symm.trans (lookup_commands.2 hnamed))
      exact htold
    | unknown _ hnamed => exact absurd (hfirst.symm ▸ h) (hnamed command)
  · exact fun htold => .command (hfirst.symm ▸ h) htold

/-! ## Sessions -/

/-- **What the shell writes** on a store. -/
structure Exact (store : Store) : Prop where
  /-- It writes the transcript of the lines of its input. -/
  transcript : ∀ input t, run store input = t ↔
    ∃ lines, Lined input lines ∧ Transcribes store lines t
  /-- A line has one response if it does not end the shell. -/
  response : ∀ line, ¬ Exits line → ∃! response, Responds store line response
  /-- The response to a command is what it answers to the text after its
  name, whatever white space is around them. -/
  command : ∀ {name command}, Named name command → ∀ {w v w' text response : String},
    IsSpace w.toList → IsSpace v.toList → v ≠ "" → IsSpace w'.toList →
    (Responds store (w ++ name ++ v ++ text ++ w') response ↔
      Told (command store (some text) .table) response)
  /-- A line that is no text is a fault of input. -/
  kind : ShellFault.unreadable.report.kind = .inputOutput

/-- **The shell answers each line from the store alone**, and no failing
command ends it. -/
theorem session_exact (store : Store) : Exact store where
  transcript := by
    intro input t
    rw [run, session_eq_iff]
    constructor
    · exact fun h => ⟨lines input, lines_eq_iff.1 rfl, h⟩
    · rintro ⟨ls, hlines, h⟩
      rwa [lines_eq_iff.2 hlines]
  response := by
    intro line hexits
    obtain ⟨response, hrespond⟩ := Option.ne_none_iff_exists'.1 (respond_eq_none_iff.not.2 hexits)
    refine ⟨response, respond_eq_some_iff.1 hrespond, fun other hother => ?_⟩
    exact Option.some.inj ((respond_eq_some_iff.2 hother).symm.trans hrespond)
  command := fun hnamed => responds_iff_told hnamed
  kind := rfl

end Shell

end Cardfile
