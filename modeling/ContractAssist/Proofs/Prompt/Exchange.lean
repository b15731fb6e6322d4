import ContractAssist.Prompt.AnswerSource
import Mathlib.Data.Nat.Find

/-!
# Exchange — how often a source is asked for a password

The requests for a password are known beforehand: the first one has no error, and all others have
the same.  So a source in some state gives a fixed sequence of answers, however it makes them up,
and an exchange takes a beginning of that sequence:

1. `AnswerSource.answerTo` is the sequence, and `AnswerSource.stateAfter` what becomes of the
   source;
2. `finish_decided` and `finish_exhausted` say where an exchange stops, by induction on the requests
   that are left;
3. `AnswerSource.noting` notes all questions, and `resolve_password` says which are put, and what
   they come to.
-/

namespace ContractAssist

/-! ## What an answer means -/

/-- A secret that is asked for again: it is too short for a new keystore. -/
def Secret.Refused (context : PasswordContext) (minLength : Nat) (answer : Option Text) : Prop :=
  ∃ secret, answer = some secret ∧ secret ≠ [] ∧ context = .newKeystore ∧ secret.length < minLength

/-- What an answer comes to that is not refused; an empty secret dismisses the question. -/
def Response.ofSecret : Option Text → Response
  | none => .cancelled
  | some [] => .cancelled
  | some secret => .reply (secret ++ "\n")

namespace Resolution

variable {minLength left : Nat} {request : SecretRequest} {answer : Option Text}

theorem take_refused (h : Secret.Refused request.context minLength answer) :
    (entering request left).take minLength (answer.elim .dismissed .secret) =
      match left with
      | 0 => settled .cancelled true
      | left + 1 =>
        entering { request with error := some (Secret.lengthMessage minLength) } left := by
  obtain ⟨secret, rfl, hne, hnew, hshort⟩ := h
  cases left <;> simp [take, hne, Secret.complaint?, Secret.tooShort, hnew, hshort]

theorem take_decided (h : ¬ Secret.Refused request.context minLength answer) :
    (entering request left).take minLength (answer.elim .dismissed .secret) =
      settled (.ofSecret answer) false := by
  cases answer with
  | none => rfl
  | some secret =>
    cases secret with
    | nil => rfl
    | cons c r =>
      have hfits : Secret.complaint? (c :: r) request.context minLength = none := by
        rw [Secret.complaint?, if_neg]
        intro hshort
        obtain ⟨hnew, hlength⟩ := of_decide_eq_true hshort
        exact h ⟨c :: r, rfl, List.cons_ne_nil c r, hnew, hlength⟩
      simp [take, hfits, Response.ofSecret]

def passwordRequest (promptText : Text) (context : PasswordContext) (minLength : Nat) :
    Nat → SecretRequest
  | 0 => firstRequest promptText context
  | _ + 1 =>
    { firstRequest promptText context with error := some (Secret.lengthMessage minLength) }

theorem context_passwordRequest (promptText : Text) (context : PasswordContext)
    (minLength n : Nat) : (passwordRequest promptText context minLength n).context = context := by
  cases n <;> rfl

/-- Only the error of a request ever changes. -/
theorem passwordRequest_succ (promptText : Text) (context : PasswordContext) (minLength n : Nat) :
    { passwordRequest promptText context minLength n with
      error := some (Secret.lengthMessage minLength) } =
      passwordRequest promptText context minLength (n + 1) := by
  cases n <;> rfl

end Resolution

namespace AnswerSource

open Resolution

variable {σ : Type}

/-! ## What a source answers -/

def stateAfter (source : AnswerSource σ) (request : Nat → SecretRequest) (s : σ) : Nat → σ
  | 0 => s
  | n + 1 => (source.secret (source.stateAfter request s n) (request n)).2

def answerTo (source : AnswerSource σ) (request : Nat → SecretRequest) (s : σ) (n : Nat) :
    Option Text :=
  (source.secret (source.stateAfter request s n) (request n)).1

variable {source : AnswerSource σ} {minLength : Nat} {promptText : Text}
variable {context : PasswordContext} {request : Nat → SecretRequest} {s : σ} {i n left : Nat}

theorem finish_settled (source : AnswerSource σ) (minLength fuel : Nat) (response : Response)
    (exhausted : Bool) (s : σ) :
    source.finish minLength fuel (settled response exhausted) s =
      (settled response exhausted, s) := by
  cases fuel <;> rfl

/-! ## Where an exchange stops -/

/-- The open request is put, and the exchange takes the answer to it. -/
theorem finish_entering (source : AnswerSource σ) (minLength fuel left n : Nat)
    (request : Nat → SecretRequest) (s : σ) :
    source.finish minLength (fuel + 1) (entering (request n) left)
        (source.stateAfter request s n) =
      source.finish minLength fuel
        ((entering (request n) left).take minLength
          ((source.answerTo request s n).elim .dismissed .secret))
        (source.stateAfter request s (n + 1)) := rfl

theorem finish_of_decided (hrequest : request = passwordRequest promptText context minLength)
    (h : ¬ Secret.Refused context minLength (source.answerTo request s n)) :
    source.finish minLength (left + 1) (entering (request n) left)
        (source.stateAfter request s n) =
      (settled (.ofSecret (source.answerTo request s n)) false,
        source.stateAfter request s (n + 1)) := by
  have hcontext : (request n).context = context := by rw [hrequest, context_passwordRequest]
  rw [finish_entering, take_decided (hcontext.symm ▸ h), finish_settled]

/-- After an answer that is refused, the next request is put. -/
theorem finish_of_refused (hrequest : request = passwordRequest promptText context minLength)
    (h : Secret.Refused context minLength (source.answerTo request s n)) :
    source.finish minLength (left + 2) (entering (request n) (left + 1))
        (source.stateAfter request s n) =
      source.finish minLength (left + 1) (entering (request (n + 1)) left)
        (source.stateAfter request s (n + 1)) := by
  have hcontext : (request n).context = context := by rw [hrequest, context_passwordRequest]
  have hnext : { request n with error := some (Secret.lengthMessage minLength) } =
      request (n + 1) := by
    rw [hrequest, passwordRequest_succ]
  rw [finish_entering, take_refused (hcontext.symm ▸ h), ← hnext]

/-- After the last request, a refusal dismisses the question. -/
theorem finish_of_refused_last (hrequest : request = passwordRequest promptText context minLength)
    (h : Secret.Refused context minLength (source.answerTo request s n)) :
    source.finish minLength 1 (entering (request n) 0) (source.stateAfter request s n) =
      (settled .cancelled true, source.stateAfter request s (n + 1)) := by
  have hcontext : (request n).context = context := by rw [hrequest, context_passwordRequest]
  rw [finish_entering, take_refused (hcontext.symm ▸ h)]
  rfl

/-- The first answer that is not refused ends the exchange. -/
theorem finish_decided (hrequest : request = passwordRequest promptText context minLength)
    (hn : n ≤ i) (hi : i ≤ n + left)
    (hrefused : ∀ j, n ≤ j → j < i →
      Secret.Refused context minLength (source.answerTo request s j))
    (hdecided : ¬ Secret.Refused context minLength (source.answerTo request s i)) :
    source.finish minLength (left + 1) (entering (request n) left)
        (source.stateAfter request s n) =
      (settled (.ofSecret (source.answerTo request s i)) false,
        source.stateAfter request s (i + 1)) := by
  -- by induction on the requests that are left; each refusal takes one of them
  induction left generalizing n with
  | zero =>
    obtain rfl : n = i := by omega
    exact finish_of_decided hrequest hdecided
  | succ left ih =>
    rcases Nat.eq_or_lt_of_le hn with rfl | hlt
    · exact finish_of_decided hrequest hdecided
    · rw [finish_of_refused hrequest (hrefused n (Nat.le_refl n) hlt)]
      exact ih hlt (by omega) fun j hj => hrefused j (Nat.le_of_succ_le hj)

/-- If all answers are refused, the question counts as dismissed once no request is left. -/
theorem finish_exhausted (hrequest : request = passwordRequest promptText context minLength)
    (h : ∀ j, n ≤ j → j ≤ n + left →
      Secret.Refused context minLength (source.answerTo request s j)) :
    source.finish minLength (left + 1) (entering (request n) left)
        (source.stateAfter request s n) =
      (settled .cancelled true, source.stateAfter request s (n + left + 1)) := by
  induction left generalizing n with
  | zero => exact finish_of_refused_last hrequest (h n (Nat.le_refl n) (Nat.le_refl n))
  | succ left ih =>
    rw [finish_of_refused hrequest (h n (Nat.le_refl n) (Nat.le_add_right _ _))]
    have hrest := ih (n := n + 1) fun j hj hj' => h j (Nat.le_of_succ_le hj) (by omega)
    rw [hrest, Nat.add_right_comm n 1 left, Nat.add_assoc n left 1]

/-! ## Whole exchanges -/

variable {handled : Bool}

/-- An exchange about a password puts five requests at most. -/
theorem resolve_eq_finish (source : AnswerSource σ) (s : σ)
    (hrequest : request = passwordRequest promptText context minLength) :
    source.resolve minLength ⟨promptText, .password context, handled⟩ s =
      match source.finish minLength 5 (entering (request 0) 4) (source.stateAfter request s 0) with
      | (.settled response _, s') => (response, s')
      | (_, s') => (.cancelled, s') := by
  rw [hrequest]
  rfl

theorem resolve_decided (source : AnswerSource σ) (s : σ)
    (hrequest : request = passwordRequest promptText context minLength) (hi : i < 5)
    (hrefused : ∀ j < i, Secret.Refused context minLength (source.answerTo request s j))
    (hdecided : ¬ Secret.Refused context minLength (source.answerTo request s i)) :
    source.resolve minLength ⟨promptText, .password context, handled⟩ s =
      (.ofSecret (source.answerTo request s i), source.stateAfter request s (i + 1)) := by
  have hfirst : ∀ j, 0 ≤ j → j < i →
      Secret.Refused context minLength (source.answerTo request s j) := fun j _ hj => hrefused j hj
  rw [resolve_eq_finish source s hrequest,
    finish_decided hrequest (Nat.zero_le i) (by omega) hfirst hdecided]

theorem resolve_exhausted (source : AnswerSource σ) (s : σ)
    (hrequest : request = passwordRequest promptText context minLength)
    (h : ∀ j < 5, Secret.Refused context minLength (source.answerTo request s j)) :
    source.resolve minLength ⟨promptText, .password context, handled⟩ s =
      (.cancelled, source.stateAfter request s 5) := by
  have hall : ∀ j, 0 ≤ j → j ≤ 0 + 4 →
      Secret.Refused context minLength (source.answerTo request s j) := fun j _ hj => h j (by omega)
  rw [resolve_eq_finish source s hrequest, finish_exhausted hrequest hall]

/-- Either one of the first five answers is the first that is not refused, or all are. -/
theorem exists_decided_or_exhausted (answer : Nat → Option Text) (context : PasswordContext)
    (minLength : Nat) :
    (∃ i < 5, (∀ j < i, Secret.Refused context minLength (answer j)) ∧
      ¬ Secret.Refused context minLength (answer i)) ∨
    ∀ j < 5, Secret.Refused context minLength (answer j) := by
  classical
  by_cases h : ∃ i, i < 5 ∧ ¬ Secret.Refused context minLength (answer i)
  · obtain ⟨hi, hdecided⟩ := Nat.find_spec h
    refine .inl ⟨Nat.find h, hi, ?_, hdecided⟩
    intro j hj
    by_contra hnot
    exact Nat.find_min h hj ⟨Nat.lt_trans hj hi, hnot⟩
  · right
    intro j hj
    by_contra hnot
    exact h ⟨j, hj, hnot⟩

/-! ## Which questions are put -/

/-- The source, with a note of all questions that are put to it, first to last. -/
def noting (source : AnswerSource σ) : AnswerSource (σ × List Question) where
  confirm s question :=
    match source.confirm s.1 question with
    | (answer, s') => (answer, s', s.2 ++ [.confirm question])
  secret s request :=
    match source.secret s.1 request with
    | (answer, s') => (answer, s', s.2 ++ [.secret request])

@[simp] theorem confirm_noting (source : AnswerSource σ) (s : σ) (asked : List Question)
    (question : Text) :
    source.noting.confirm (s, asked) question =
      ((source.confirm s question).1, (source.confirm s question).2,
        asked ++ [.confirm question]) := rfl

@[simp] theorem secret_noting (source : AnswerSource σ) (s : σ) (asked : List Question)
    (request : SecretRequest) :
    source.noting.secret (s, asked) request =
      ((source.secret s request).1, (source.secret s request).2, asked ++ [.secret request]) := rfl

theorem stateAfter_noting (source : AnswerSource σ) (request : Nat → SecretRequest) (s : σ)
    (asked : List Question) (n : Nat) :
    source.noting.stateAfter request (s, asked) n =
      (source.stateAfter request s n,
        asked ++ (List.range n).map fun i => .secret (request i)) := by
  induction n with
  | zero => simp [stateAfter]
  | succ n ih => simp [stateAfter, ih, List.range_succ]

theorem answerTo_noting (source : AnswerSource σ) (request : Nat → SecretRequest) (s : σ)
    (asked : List Question) (n : Nat) :
    source.noting.answerTo request (s, asked) n = source.answerTo request s n := by
  rw [answerTo, stateAfter_noting]
  rfl

/-- Gives these answers to requests for a secret, one after another; its state counts them. -/
def replaying (answers : Nat → Option Text) : AnswerSource Nat where
  confirm n _ := (none, n)
  secret n _ := (answers n, n + 1)

theorem stateAfter_replaying (answers : Nat → Option Text) (request : Nat → SecretRequest)
    (n : Nat) : (replaying answers).stateAfter request 0 n = n := by
  induction n with
  | zero => rfl
  | succ n ih =>
    rw [stateAfter, ih]
    rfl

theorem answerTo_replaying (answers : Nat → Option Text) (request : Nat → SecretRequest)
    (n : Nat) : (replaying answers).answerTo request 0 n = answers n := by
  rw [answerTo, stateAfter_replaying]
  rfl

/--
A source in any state answers the requests for a password one after another.  Of its first five
answers, the first that is not refused decides what the exchange comes to, and if there is none, the
question counts as dismissed.  Up to then, the requests are put in order, and the source is asked
nothing else.  They differ in the error alone, which is absent at first and then about the length.
Any sequence of answers comes from some source.
-/
theorem resolve_password (source : AnswerSource σ) (minLength : Nat) (promptText : Text)
    (context : PasswordContext) (handled : Bool) (s : σ) :
    let request := passwordRequest promptText context minLength
    let answer := source.answerTo request s
    let asked := fun n => (List.range n).map fun i => Question.secret (request i)
    let outcome :=
      source.noting.resolve minLength ⟨promptText, .password context, handled⟩ (s, [])
    (∀ i < 5, (∀ j < i, Secret.Refused context minLength (answer j)) →
      ¬ Secret.Refused context minLength (answer i) →
      outcome = (.ofSecret (answer i), source.stateAfter request s (i + 1), asked (i + 1))) ∧
    ((∀ j < 5, Secret.Refused context minLength (answer j)) →
      outcome = (.cancelled, source.stateAfter request s 5, asked 5)) ∧
    (context ≠ .newKeystore →
      outcome = (.ofSecret (answer 0), source.stateAfter request s 1, asked 1)) ∧
    (∀ n, request n =
      ⟨context.label, promptText, context,
        if n = 0 then none else some (Secret.lengthMessage minLength)⟩) ∧
    ∀ answers : Nat → Option Text, ∀ n, (replaying answers).answerTo request 0 n = answers n ∧
      (replaying answers).stateAfter request 0 n = n := by
  intro request answer asked outcome
  have hrequest : request = passwordRequest promptText context minLength := rfl
  -- to note the questions changes no answer, so the noted exchange stops where the plain one does
  have hanswer : ∀ n, source.noting.answerTo request (s, []) n = answer n :=
    answerTo_noting source request s []
  have hstate : ∀ n, source.noting.stateAfter request (s, []) n =
      (source.stateAfter request s n, asked n) := by
    intro n
    rw [stateAfter_noting, List.nil_append]
  have hdecided : ∀ i < 5, (∀ j < i, Secret.Refused context minLength (answer j)) →
      ¬ Secret.Refused context minLength (answer i) →
      outcome = (.ofSecret (answer i), source.stateAfter request s (i + 1), asked (i + 1)) := by
    intro i hi hrefused hdecided
    simp only [← hanswer] at hrefused hdecided
    calc outcome = (.ofSecret (source.noting.answerTo request (s, []) i),
          source.noting.stateAfter request (s, []) (i + 1)) :=
        resolve_decided source.noting (s, []) hrequest hi hrefused hdecided
      _ = _ := by rw [hanswer, hstate]
  refine ⟨hdecided, ?_, ?_, ?_, ?_⟩
  · intro hrefused
    simp only [← hanswer] at hrefused
    calc outcome = (.cancelled, source.noting.stateAfter request (s, []) 5) :=
        resolve_exhausted source.noting (s, []) hrequest hrefused
      _ = _ := by rw [hstate]
  · intro hcontext
    refine hdecided 0 (by decide) (fun j hj => absurd hj (Nat.not_lt_zero j)) ?_
    rintro ⟨secret, -, -, hnew, -⟩
    exact hcontext hnew
  · intro n
    cases n <;> rfl
  · intro answers n
    exact ⟨answerTo_replaying answers request n, stateAfter_replaying answers request n⟩

end AnswerSource
end ContractAssist
