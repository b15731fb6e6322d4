import ContractAssist.Prompt.Resolution

/-!
# AnswerSource — where answers come from

A source answers questions and may change while it does so: a script of answers gets shorter, a
terminal shows more text.

* `AnswerSource` is a pair of step functions on the state of the source;
* `PresetAnswers` are fixed answers, and `AnswerSource.preset` gives them;
* `AnswerSource.presetFirst` asks another source only where no answer is fixed;
* `AnswerSource.resolve` runs a whole exchange.
-/

namespace ContractAssist

/-- Answers questions; `none` dismisses. -/
structure AnswerSource (σ : Type) where
  confirm : σ → Text → Option Bool × σ
  secret : σ → SecretRequest → Option Text × σ

structure PresetAnswers where
  createKeypair : Option Bool
  password : Option Text
  deriving DecidableEq, Repr, Inhabited

namespace PresetAnswers

def none : PresetAnswers := ⟨.none, .none⟩

def answer? (p : PresetAnswers) : Question → Option Answer
  | .confirm _ => p.createKeypair.map .choice
  | .secret _ => p.password.map .secret

/-- A form for diagnostics; it keeps the password to itself. -/
def redacted (p : PresetAnswers) : Text :=
  let keypair : Text := match p.createKeypair with
    | some true => "Some(true)"
    | some false => "Some(false)"
    | .none => "None"
  let password : Text := match p.password with
    | some _ => "Some(\"<redacted>\")"
    | .none => "None"
  "PresetResolver \x7b create_keypair: " ++ keypair ++ ", password: " ++ password ++ " \x7d"

end PresetAnswers

namespace AnswerSource

variable {σ : Type}

def ask (source : AnswerSource σ) (s : σ) : Question → Answer × σ
  | .confirm question =>
    match source.confirm s question with
    | (answer, s') => (answer.elim .dismissed .choice, s')
  | .secret request =>
    match source.secret s request with
    | (answer, s') => (answer.elim .dismissed .secret, s')

/-- Gives fixed answers and dismisses all other questions. -/
def preset (p : PresetAnswers) : AnswerSource σ where
  confirm s _ := (p.createKeypair, s)
  secret s _ := (p.password, s)

/-- Gives fixed answers and passes all other questions on. -/
def presetFirst (p : PresetAnswers) (fallback : AnswerSource σ) : AnswerSource σ where
  confirm s question :=
    match p.createKeypair with
    | some answer => (some answer, s)
    | none => fallback.confirm s question
  secret s request :=
    match p.password with
    | some password => (some password, s)
    | none => fallback.secret s request

/-- Answers the open questions of an exchange, at most `fuel` of them. -/
def finish (source : AnswerSource σ) (minLength : Nat) :
    Nat → Resolution → σ → Resolution × σ
  | 0, r, s => (r, s)
  | fuel + 1, r, s =>
    match r.question? with
    | none => (r, s)
    | some q =>
      match source.ask s q with
      | (answer, s') => source.finish minLength fuel (r.take minLength answer) s'

/-- Runs the whole exchange about a prompt. -/
def resolve (source : AnswerSource σ) (minLength : Nat) (prompt : Prompt) (s : σ) :
    Response × σ :=
  match source.finish minLength (Resolution.start prompt).fuel (Resolution.start prompt) s with
  | (.settled response _, s') => (response, s')
  -- not reached: when its fuel is used up, an exchange is settled
  | (_, s') => (.cancelled, s')

end AnswerSource
end ContractAssist
