import Cardfile.Command
import Cardfile.Text.Lines
/-!
# The shell

The shell reads commands line by line and answers each of them from the
store alone. A command that fails is answered by its message, and the
shell goes on until it is told to stop or the input ends.
-/

namespace Cardfile

/-- Why a shell ends before it is told to. -/
inductive ShellFault where
  /-- A line is not UTF-8. -/
  | unreadable
  /-- The output takes nothing. -/
  | unwritable (reason : String)
  deriving DecidableEq, Repr

/-- The fault as it is told to the user. -/
def ShellFault.report : ShellFault → Report
  | .unreadable =>
    { kind := .inputOutput, message := some "failed to read command",
      causes := ["stream did not contain valid UTF-8"] }
  | .unwritable reason =>
    { kind := .inputOutput, message := some "failed to write shell output",
      causes := [reason] }

namespace Shell

/-- The commands of the shell, by name. -/
def commands : List (String × (Store → Option String → Format → Except CommandFault Answer)) :=
  [("indexquery", Command.indexQuery), ("query", Command.query)]

/-- The word that ends the shell, in any case. -/
def exitWord : String := "exit"

/-- What the shell writes before each line. -/
def prompt : String := "> "

/-- What the shell writes at the end. -/
def farewell : String := "Goodbye!\n"

/-- The answer to a line that names no command. -/
def unknownText : String := "Unknown command!"

/-- The first word of a line, and what stands after it. -/
def words (line : String) : List Char × Option String :=
  let line := Text.trim line.toList
  match Text.cutAt Text.isBlank line with
  | some (name, argument) => (name, some (String.ofList (Text.trim argument)))
  | none => (line, none)

/-- A report as the shell tells it. -/
def failureText (r : Report) : String := r.message.getD r.text

/-- The answer to a command as the shell tells it. -/
def answerText : Except CommandFault Answer → String
  | .ok answer => answer.toText
  | .error fault => failureText fault.report

/-- The answer to a line, or nothing if the line ends the shell. -/
def respond (store : Store) (line : String) : Option String :=
  let (name, argument) := words line
  if Text.sameIgnoringCase name exitWord.toList then none
  else
    match commands.lookup (String.ofList name) with
    | none => some unknownText
    | some command => some (answerText (command store argument .table))

/-- What the shell writes after a prompt, and whether it goes on. -/
structure Reply where
  /-- What the shell writes. -/
  output : String
  /-- Whether another prompt follows. -/
  goesOn : Bool
  /-- The fault that ends the shell. -/
  fault : Option ShellFault := none
  deriving DecidableEq, Repr

/-- The reply to a line of input, or to its end. -/
def reply (store : Store) : Option (List UInt8) → Reply
  | none => { output := "\n" ++ farewell, goesOn := false }
  | some line =>
    match Text.Utf8.decode line with
    | .error _ => { output := "", goesOn := false, fault := some .unreadable }
    | .ok text =>
      match respond store (String.ofList text) with
      | none => { output := farewell, goesOn := false }
      | some response => { output := response ++ "\n", goesOn := true }

/-- What a shell wrote, and the fault that ended it if one did. -/
structure Transcript where
  /-- What the shell wrote. -/
  output : String
  /-- The fault that ended it. -/
  fault : Option ShellFault
  deriving DecidableEq, Repr

/-- A prompt and the reply to it, followed by what comes after. -/
def Transcript.after (r : Reply) (t : Transcript) : Transcript :=
  { t with output := prompt ++ r.output ++ t.output }

/-- A prompt and the reply that ends the shell. -/
def Transcript.ofLast (r : Reply) : Transcript :=
  { output := prompt ++ r.output, fault := r.fault }

/-- What the shell writes for the lines. -/
def session (store : Store) : List (List UInt8) → Transcript
  | [] => .ofLast (reply store none)
  | line :: rest =>
    let r := reply store (some line)
    if r.goesOn then (session store rest).after r else .ofLast r

/-- What the shell writes for the input. -/
def run (store : Store) (input : List UInt8) : Transcript := session store (Text.lines input)

/-- What the shell writes if the output is closed: nothing. -/
def runClosed : Transcript := { output := "", fault := some (.unwritable "closed") }

end Shell

end Cardfile
