import ContractAssist.Run.Basic

/-!
# Message — what a run says

* the messages of an outcome;
* the lines that a run logs.
-/

namespace ContractAssist

def PromptKind.name : PromptKind → Text
  | keypair => "Keypair"
  | password .newKeystore => "Password(NewKeystore)"
  | password .confirm => "Password(Confirm)"
  | password .decrypt => "Password(Decrypt)"

namespace Run.Message

/-! ## Outcomes -/

def withoutAddress (exit? : Option Exit) : Text :=
  match exit? with
  | some (.unknown cause) => (RunError.io cause).message
  | some (.ended (.code n)) => "no address in output (exit code " ++ Text.ofNat n ++ ")"
  | _ => "no address in output (terminated by signal)"

def finished (address? : Option Text) (exit? : Option Exit) : Text :=
  match address? with
  | some address => "address " ++ address
  | none => withoutAddress exit?

/-! ## Log lines -/

def addressSeen (address : Text) : LogLine :=
  ⟨.info, "success token observed", [("address", address)]⟩

def waitFailed (cause : IoError) : LogLine :=
  ⟨.warn, "waiting on child failed", [("error", cause.message)]⟩

def cancelled (kind : PromptKind) : LogLine :=
  ⟨.info, "prompt cancelled; killing child", [("kind", kind.name)]⟩

def exhausted : LogLine :=
  ⟨.warn, "giving up after " ++ Text.ofNat Secret.maxAttempts ++ " invalid password entries", []⟩

def replyLost (cause : IoError) : LogLine :=
  ⟨.warn, "writing reply to child failed", [("error", (RunError.io cause).message)]⟩

def timedOut (invocation : Invocation) : LogLine :=
  ⟨.warn, "timed out after " ++ invocation.timeout.format ++ "; killing child",
    [("command", invocation.display)]⟩

def spawnFailed (invocation : Invocation) (error : RunError) : LogLine :=
  ⟨.warn, "spawn failed", [("command", invocation.display), ("error", error.message)]⟩

end Run.Message
end ContractAssist
