import ContractAssist.Prompt.AnswerSource
import ContractAssist.Prompt.YesNo
import ContractAssist.Run.Rehearsal
import ContractAssist.Terminal.Console
import ContractAssist.Terminal.Renderer

/-!
# Dialog — questions to a user

* `Dialog.confirm` asks a yes-or-no question on the console, once in each `Dialog.round`;
* `Dialog.secret` asks for a secret on the terminal;
* `Dialog.attendant` answers the questions of a run: fixed answers first, then the user's.

A question that cannot be shown counts as dismissed.
-/

namespace ContractAssist
namespace Dialog

def questionMark (p : Palette) : Text :=
  p.paint ⟨.cyan, true⟩ "?"

/-! ## Yes or no -/

def confirmText (p : Palette) (question : Text) : Text :=
  questionMark p ++ " " ++ p.paint ⟨.white, false⟩ question ++ " [Y/n] "

/-- Shows a yes-or-no question once and reads a line of the input. -/
def round (p : Palette) (question : Text) (c : Console) : Bytes × Console :=
  (c.complain (confirmText p question)).readLine

theorem length_round_lt {p : Palette} {question : Text} {c : Console}
    (h : (round p question c).1 ≠ []) :
    (round p question c).2.input.length < c.input.length := by
  have hread := Console.length_readLine_lt h
  rwa [Console.complain_input] at hread

/--
Asks a yes-or-no question until a line is understood. The end of the input dismisses the question,
and so does a line that is not UTF-8.
-/
def confirm (p : Palette) (c : Console) (question : Text) : Option Bool × Console :=
  if !c.hears then (none, c)
  else
    let line := (round p question c).1
    let next := (round p question c).2
    if line = [] then (none, next.complain "\n")
    else
      match Utf8.decode? line with
      | none => (none, next)
      | some text =>
        match YesNo.read? text with
        | some yes => (some yes, next)
        | none => confirm p next question
termination_by c.input.length
decreasing_by exact length_round_lt ‹_›

/-! ## Secrets -/

/-- What is said before a secret is asked for: what was wrong with the last one, and the prompt. -/
def secretNotice (p : Palette) (request : SecretRequest) : List Text :=
  (request.error.toList.map fun e => Renderer.indent ++ p.paint ⟨.red, false⟩ e ++ "\n")
    ++ [Renderer.indent ++ p.paint ⟨.darkGrey, false⟩ request.promptText ++ "\n"]

def secretLabel (p : Palette) (label : Text) : Text :=
  questionMark p ++ " " ++ p.paint ⟨.white, false⟩ label ++ ": "

def secret (p : Palette) (c : Console) (request : SecretRequest) : Entry × Console :=
  match c.complainAll (secretNotice p request) with
  | (false, c) => (.aborted [], c)
  | (true, c) =>
    match c.terminal with
    | none => (.aborted [], c)
    | some terminal =>
      let (entry, terminal) := terminal.askSecret (secretLabel p request.label)
      (entry, { c with terminal := some terminal })

/-! ## Runs -/

def ask (p : Palette) (c : Console) : Question → Turn Console
  | .confirm question =>
    let (answer, c) := confirm p c question
    .immediate (answer.elim .dismissed .choice) c
  | .secret request =>
    match secret p c request with
    | (.accepted value _, c) => .immediate (.secret value) c
    | (.aborted _, c) => .immediate .dismissed c
    | (.unfinished, c) => ⟨none, false, ⟨0⟩, ⟨0⟩, c⟩

def present (p : Palette) (c : Console) (chunk : Chunk) : Console :=
  let text := Renderer.childOutput p chunk
  match chunk.stream with
  | .output => c.print text
  | .diagnostics => c.complain text

/--
Gives fixed answers, and asks the user all other questions. What a run logs is dropped: the lines
that the program's subscriber writes to its standard error, from warnings on unless it is told
otherwise, are not on the console.
-/
def attendant (p : Palette) (preset : PresetAnswers) : Attendant Console where
  answer c question :=
    match preset.answer? question with
    | some answer => .immediate answer c
    | none => ask p c question
  present := present p
  log c _ := c
  presentingBlocks := ⟨0⟩
  presentingReaps := false

end Dialog
end ContractAssist
