import ContractAssist.Proofs.Prompt.Exchange

/-!
# Layer — preset answers in front of another source

Preset answers take the place of a source for the questions they answer, and leave all others to it.
This is plain for one question; for a whole exchange it holds since all its questions are of the
category of the prompt:

1. `Concerns` says that an exchange puts questions of one category only, as `concerns_start` and
   `Concerns.take` show of every exchange about a prompt;
2. `AlikeFor.resolve`: sources that such questions cannot tell apart come to the same;
3. `resolve_presetFirst` compares preset answers in front of a source with either of the two alone.
-/

namespace ContractAssist

/-! ## Questions of one category -/

def PresetAnswers.covers (p : PresetAnswers) : PromptCategory → Bool
  | .keypair => p.createKeypair.isSome
  | .password => p.password.isSome

def Question.category : Question → PromptCategory
  | confirm _ => .keypair
  | secret _ => .password

namespace Resolution

def Concerns (c : PromptCategory) (exchange : Resolution) : Prop :=
  ∀ q, exchange.question? = some q → q.category = c

theorem concerns_settled (c : PromptCategory) (response : Response) (exhausted : Bool) :
    (settled response exhausted).Concerns c := by
  intro q hq
  cases hq

theorem concerns_entering (request : SecretRequest) (left : Nat) :
    (entering request left).Concerns .password := by
  rintro q ⟨⟩
  rfl

theorem concerns_start (prompt : Prompt) : (start prompt).Concerns prompt.category := by
  rw [start, Prompt.category]
  cases prompt.kind with
  | keypair =>
    rintro q ⟨⟩
    rfl
  | password context => exact concerns_entering _ _

/-- An answer settles the exchange, or leads to one more question of its category. -/
theorem Concerns.take {c : PromptCategory} {exchange : Resolution} (h : exchange.Concerns c)
    (minLength : Nat) (answer : Answer) : (exchange.take minLength answer).Concerns c := by
  cases exchange with
  | confirming question =>
    have hsettled : ∃ response,
        (confirming question).take minLength answer = settled response false := by
      cases answer with
      | dismissed => exact ⟨_, rfl⟩
      | choice yes => cases yes <;> exact ⟨_, rfl⟩
      | secret value => exact ⟨_, rfl⟩
    obtain ⟨response, hsettled⟩ := hsettled
    rw [hsettled]
    exact concerns_settled c response false
  | entering request left =>
    obtain rfl : .password = c := h (.secret request) rfl
    cases answer with
    | dismissed => exact concerns_settled _ _ _
    | choice yes => exact concerns_settled _ _ _
    | secret value =>
      simp only [Resolution.take]
      split
      · exact concerns_settled _ _ _
      · split
        · exact concerns_settled _ _ _
        · exact concerns_settled _ _ _
        · exact concerns_entering _ _
  | settled response exhausted => exact concerns_settled c response exhausted

/-- What an exchange has come to; an open question counts as dismissed. -/
def response : Resolution → Response
  | settled response _ => response
  | _ => .cancelled

end Resolution

namespace AnswerSource

open Resolution

variable {σ τ : Type}

/-! ## Sources that are alike for a category -/

/-- States in the relation answer questions of the category alike, and stay in the relation. -/
def AlikeFor (c : PromptCategory) (source : AnswerSource σ) (other : AnswerSource τ)
    (R : σ → τ → Prop) : Prop :=
  ∀ q s t, q.category = c → R s t →
    (source.ask s q).1 = (other.ask t q).1 ∧ R (source.ask s q).2 (other.ask t q).2

variable {c : PromptCategory} {source : AnswerSource σ} {other : AnswerSource τ}
variable {R : σ → τ → Prop} {s : σ} {t : τ}

theorem AlikeFor.finish (halike : AlikeFor c source other R) (minLength fuel : Nat)
    {exchange : Resolution} (hexchange : exchange.Concerns c) (h : R s t) :
    (source.finish minLength fuel exchange s).1 = (other.finish minLength fuel exchange t).1 ∧
      R (source.finish minLength fuel exchange s).2 (other.finish minLength fuel exchange t).2 := by
  induction fuel generalizing exchange s t with
  | zero => exact ⟨rfl, h⟩
  | succ fuel ih =>
    cases hq : exchange.question? with
    | none => simpa only [AnswerSource.finish, hq] using ⟨trivial, h⟩
    | some q =>
      -- the same answer advances both exchanges to the same one, which the induction goes on with
      obtain ⟨hanswer, hnext⟩ := halike q s t (hexchange q hq) h
      have hrest := ih (hexchange.take minLength (source.ask s q).1) hnext
      simpa only [AnswerSource.finish, hq, hanswer] using hrest

theorem resolve_eq (source : AnswerSource σ) (minLength : Nat) (prompt : Prompt) (s : σ) :
    let exchange := Resolution.start prompt
    source.resolve minLength prompt s =
      ((source.finish minLength exchange.fuel exchange s).1.response,
        (source.finish minLength exchange.fuel exchange s).2) := by
  intro exchange
  rw [resolve]
  rcases source.finish minLength exchange.fuel exchange s with ⟨_ | _ | _, s'⟩ <;> rfl

/-- Whole exchanges about a prompt come to the same, and leave states in the relation. -/
theorem AlikeFor.resolve {prompt : Prompt} (halike : AlikeFor prompt.category source other R)
    (minLength : Nat) (h : R s t) :
    (source.resolve minLength prompt s).1 = (other.resolve minLength prompt t).1 ∧
      R (source.resolve minLength prompt s).2 (other.resolve minLength prompt t).2 := by
  obtain ⟨hexchange, hstate⟩ :=
    halike.finish minLength (Resolution.start prompt).fuel (concerns_start prompt) h
  rw [resolve_eq, resolve_eq]
  exact ⟨congrArg Resolution.response hexchange, hstate⟩

/-! ## Preset answers -/

/-- Where a preset covers the category, its answer is given, and the other source stays as it is. -/
theorem ask_presetFirst_of_covers {p : PresetAnswers} {q : Question}
    (h : p.covers q.category = true) (source : AnswerSource σ) (s : σ) (t : τ) :
    (presetFirst p source).ask s q = (((preset p : AnswerSource τ).ask t q).1, s) := by
  cases q with
  | confirm question =>
    obtain ⟨yes, hyes⟩ := Option.isSome_iff_exists.1 h
    simp [ask, presetFirst, preset, hyes]
  | secret request =>
    obtain ⟨password, hpassword⟩ := Option.isSome_iff_exists.1 h
    simp [ask, presetFirst, preset, hpassword]

/-- Where no preset covers the category, the other source is asked. -/
theorem ask_presetFirst_of_not_covers {p : PresetAnswers} {q : Question}
    (h : p.covers q.category = false) (source : AnswerSource σ) (s : σ) :
    (presetFirst p source).ask s q = source.ask s q := by
  cases q with
  | confirm question =>
    have hnone : p.createKeypair = none := by
      simpa [PresetAnswers.covers, Question.category] using h
    simp [ask, presetFirst, hnone]
  | secret request =>
    have hnone : p.password = none := by
      simpa [PresetAnswers.covers, Question.category] using h
    simp [ask, presetFirst, hnone]

/-- To note the questions changes nothing that a source does. -/
theorem resolve_noting (source : AnswerSource σ) (minLength : Nat) (prompt : Prompt) (s : σ)
    (asked : List Question) :
    let noted := source.noting.resolve minLength prompt (s, asked)
    (noted.1, noted.2.1) = source.resolve minLength prompt s := by
  intro noted
  have halike : AlikeFor prompt.category source.noting source fun noted s => noted.1 = s := by
    rintro q ⟨s, asked⟩ _ - rfl
    cases q <;> exact ⟨rfl, rfl⟩
  obtain ⟨hresponse, hstate⟩ := halike.resolve minLength (s := (s, asked)) (t := s) rfl
  exact Prod.ext hresponse hstate

/--
An exchange with preset answers in front of another source.  If a preset covers the category of the
prompt, it comes to what the preset answers alone come to, and nothing is asked of the other source.
If none does, it comes to what the other source alone comes to: the same questions are put to it in
the same order, and it is left in the same state.  That all questions are noted changes nothing.
-/
theorem resolve_presetFirst (p : PresetAnswers) (source : AnswerSource σ) (minLength : Nat)
    (prompt : Prompt) (s : σ) (asked : List Question) (t : τ) :
    let layered := (presetFirst p source.noting).resolve minLength prompt (s, asked)
    let alone := source.noting.resolve minLength prompt (s, asked)
    (p.covers prompt.category = true →
      layered = (((preset p).resolve minLength prompt t).1, s, asked)) ∧
    (p.covers prompt.category = false → layered = alone) ∧
    (alone.1, alone.2.1) = source.resolve minLength prompt s ∧
    (layered.1, layered.2.1) = (presetFirst p source).resolve minLength prompt s := by
  intro layered alone
  refine ⟨?_, ?_, resolve_noting source minLength prompt s asked, ?_⟩
  · intro hcovers
    -- related are all states in which nothing has happened to the other source
    have halike : AlikeFor prompt.category (presetFirst p source.noting) (preset p : AnswerSource τ)
        fun state _ => state = (s, asked) := by
      rintro q _ t hq rfl
      rw [ask_presetFirst_of_covers (hq ▸ hcovers) source.noting (s, asked) t]
      exact ⟨rfl, rfl⟩
    obtain ⟨hresponse, hstate⟩ := halike.resolve minLength (s := (s, asked)) (t := t) rfl
    exact Prod.ext hresponse hstate
  · intro hcovers
    have halike : AlikeFor prompt.category (presetFirst p source.noting) source.noting Eq := by
      rintro q state _ hq rfl
      rw [ask_presetFirst_of_not_covers (hq ▸ hcovers)]
      exact ⟨rfl, rfl⟩
    obtain ⟨hresponse, hstate⟩ :=
      halike.resolve minLength (s := (s, asked)) (t := (s, asked)) rfl
    exact Prod.ext hresponse hstate
  · have halike : AlikeFor prompt.category (presetFirst p source.noting) (presetFirst p source)
        fun noted s => noted.1 = s := by
      rintro q ⟨s, asked⟩ _ - rfl
      cases q with
      | confirm question => cases hyes : p.createKeypair <;> simp [ask, presetFirst, hyes]
      | secret request => cases hpassword : p.password <;> simp [ask, presetFirst, hpassword]
    obtain ⟨hresponse, hstate⟩ := halike.resolve minLength (s := (s, asked)) (t := s) rfl
    exact Prod.ext hresponse hstate

end AnswerSource
end ContractAssist
