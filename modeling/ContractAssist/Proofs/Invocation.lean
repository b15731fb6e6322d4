import ContractAssist.Invocation
import ContractAssist.Proofs.Text.Lines
import ContractAssist.Proofs.Text.Quoted
import Mathlib.Data.List.Forall2

/-!
# Invocation — a command on one line

A command is shown for people who read messages line by line, and its arguments may be any texts:

1. `Shows` says what stands for an argument: the argument itself, if something is seen of it and no
   blank divides it, and otherwise a quoted text that is read back as the argument;
2. `shows_displayArgument` and `onlySpaces_displayArgument`: each argument is shown so, and brings
   no blank with it but spaces;
3. `display_shows` puts the arguments together.
-/

namespace ContractAssist
namespace Invocation

/-! ## One argument -/

inductive Shows (argument : Text) : Text → Prop where
  -- the argument itself: it is not empty, and no blank is in it
  | plain (hne : argument ≠ []) (hblank : ∀ c ∈ argument, isBlank c = false) :
      Shows argument argument
  -- a quoted text that is read back as the argument, which could not stand for itself
  | quoted {piece : Text} (hneeded : argument = [] ∨ ∃ c ∈ argument, isBlank c = true)
      (hread : Quoted.decode? piece = some argument) : Shows argument piece

theorem needsQuotes_iff {argument : Text} :
    needsQuotes argument = true ↔ argument = [] ∨ ∃ c ∈ argument, isBlank c = true := by
  rw [needsQuotes, Bool.or_eq_true, List.isEmpty_iff, List.any_eq_true]

theorem needsQuotes_eq_false_iff {argument : Text} :
    needsQuotes argument = false ↔ argument ≠ [] ∧ argument.any isBlank = false := by
  rw [needsQuotes, Bool.or_eq_false_iff, List.isEmpty_eq_false_iff]

theorem shows_displayArgument (argument : Text) : Shows argument (displayArgument argument) := by
  unfold displayArgument
  cases hquotes : needsQuotes argument with
  | true => exact .quoted (needsQuotes_iff.1 hquotes) (Quoted.decode?_encode argument)
  | false =>
    obtain ⟨hne, hblank⟩ := needsQuotes_eq_false_iff.1 hquotes
    exact .plain hne fun c hc => Bool.eq_false_iff.2 (List.any_eq_false.1 hblank c hc)

theorem onlySpaces_displayArgument (argument : Text) :
    Text.OnlySpaces (displayArgument argument) := by
  unfold displayArgument
  cases hquotes : needsQuotes argument with
  | true => exact Quoted.onlySpaces_encode argument
  | false => exact Text.onlySpaces_of_blankFree (needsQuotes_eq_false_iff.1 hquotes).2

/-! ## The whole command -/

/--
A command is shown as its program with a piece for each argument behind it, each behind a space.  No
other blank than the space follows the program, so the arguments begin no line of their own.
-/
theorem display_shows (i : Invocation) :
    ∃ pieces : List Text, List.Forall₂ Shows i.arguments pieces ∧
      i.display = i.program ++ pieces.flatMap (fun piece => ' ' :: piece) ∧
      Text.OnlySpaces (pieces.flatMap fun piece => ' ' :: piece) ∧
      (Text.lines i.display).2.length = (Text.lines i.program).2.length := by
  have hdisplay : i.display =
      i.program ++ (i.arguments.map displayArgument).flatMap (fun piece => ' ' :: piece) := by
    rw [display, List.flatMap_map]
  have hspaces : Text.OnlySpaces
      ((i.arguments.map displayArgument).flatMap fun piece => ' ' :: piece) := by
    apply Text.onlySpaces_flatMap
    intro piece hpiece
    obtain ⟨argument, -, rfl⟩ := List.mem_map.1 hpiece
    have hspace : Text.OnlySpaces [' '] := fun c hc _ => List.mem_singleton.1 hc
    exact hspace.append (onlySpaces_displayArgument argument)
  refine ⟨i.arguments.map displayArgument, ?_, hdisplay, hspaces, ?_⟩
  · rw [List.forall₂_map_right_iff]
    exact List.forall₂_same.2 fun argument _ => shows_displayArgument argument
  · rw [hdisplay]
    exact Text.length_lines_append i.program hspaces.lineBreakFree

/-- A line feed and an ideographic space are shown by what they are written with. -/
example : display ⟨"sh", ["-c", "a\n\u3000b", ""], none, ⟨0⟩⟩ =
    ("sh -c \"a\\n\\u\x7b3000\x7db\" \"\"" : Text) := by
  decide +kernel

end Invocation
end ContractAssist
