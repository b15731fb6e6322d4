import ContractAssist.Text.Basic

/-!
# Basic — what can be asked for on the command line

* `Arguments` is a request: what applies to all commands, and one `Command`;
* `UsageError` says why the words of a command line are no request.
-/

namespace ContractAssist
namespace CommandLine

inductive Command where
  | lint (file : Text) (json : Bool) (errorsOnly : Bool) (excludeRules : List Text)
  | deploy (contract : Text) (rpc : Option Text) (timeout : Option Nat) (yes : Bool)
      (passwordEnv : Option Text)
  | init (force : Bool)
  deriving DecidableEq, Repr, Inhabited

structure Arguments where
  config : Option Text
  noColor : Bool
  verbose : Nat
  command : Command
  deriving DecidableEq, Repr, Inhabited

inductive UsageError where
  | displayHelp
  -- the version was asked for, perhaps with all that is known about the build
  | displayVersion (full : Bool)
  | displayHelpOnMissing
  | missingSubcommand
  | invalidSubcommand
  -- there is no argument of that name, or no place for one more
  | unknownArgument
  | missingRequiredArgument
  -- a value is missing, empty or not among those allowed
  | invalidValue
  -- a value is not a number that fits
  | valueValidation
  -- an argument that may be given once is given twice
  | argumentConflict
  | tooManyValues
  deriving DecidableEq, Repr, Inhabited

end CommandLine
end ContractAssist
