import Mathlib.Data.List.Forall2
import ContractAssist.Proofs.Run.Conversation
import ContractAssist.Prompt.AnswerSource
import ContractAssist.Run.Detail

/-!
# Secrecy — a secret reaches nobody but the child

Two runs are compared that are told the same, except that the secrets which answer their questions
differ.

1. `Answer.shade` is all that may be known of an answer: that it dismisses the question, the choice
   that it makes, or whether its secret is long enough for a new keystore;
2. `Resolution.take_of_shade`: answers of one shade lead to the same next question, or to the same
   end but for the line of the reply;
3. `step_alike` and `gathered_alike` carry this from one event to whole runs;
4. `secrecy_after` says what cannot be told apart: everything but the lines that are written.
-/

namespace ContractAssist

/-! ## What may be known of an answer -/

/-- What an answer is, its secret aside. -/
inductive Shade where
  | dismissal
  | choice (yes : Bool)
  -- a secret, too short for a new keystore
  | tooShort
  -- a secret that will do for everything
  | acceptable
  deriving DecidableEq, Repr

/-- The shade of an answer; an empty secret dismisses the question. -/
def Answer.shade (minLength : Nat) : Answer → Shade
  | dismissed => .dismissal
  | choice yes => .choice yes
  | secret value =>
    if value.isEmpty then .dismissal
    else if value.length < minLength then .tooShort
    else .acceptable

namespace Resolution

/-- Two turns of an exchange that differ in the line of the reply, if at all. -/
inductive Alike : Resolution → Resolution → Prop where
  | same (exchange) : Alike exchange exchange
  | replies (line line' exhausted) :
      Alike (.settled (.reply line) exhausted) (.settled (.reply line') exhausted)

/-- A yes-or-no question is dismissed by everything that is not a choice. -/
theorem take_confirming_of_shade (minLength : Nat) (question : Text) {a a' : Answer}
    (h : a.shade minLength = a'.shade minLength) :
    (confirming question).take minLength a = (confirming question).take minLength a' := by
  -- a secret has a shade of its own, so an answer of the shade of a choice is that choice
  have hsecret : ∀ value yes, (Answer.secret value).shade minLength ≠ .choice yes := by
    intro value yes
    simp only [Answer.shade]
    split
    · simp
    · split <;> simp
  cases a with
  | choice yes =>
    cases a' with
    | choice yes' =>
      have hsame : yes = yes' := by simpa [Answer.shade] using h
      simp only [hsame]
    | dismissed => simp [Answer.shade] at h
    | secret value => exact absurd h.symm (hsecret value yes)
  | dismissed =>
    cases a' with
    | choice yes => simp [Answer.shade] at h
    | dismissed => rfl
    | secret value => rfl
  | secret value =>
    cases a' with
    | choice yes => exact absurd h (hsecret value yes)
    | dismissed => rfl
    | secret value' => rfl

/-- What a request for a secret makes of an answer, by the shade of the answer alone. -/
def byShade (minLength : Nat) (request : SecretRequest) (left : Nat) (line : Text) :
    Shade → Resolution
  | .dismissal => settled .cancelled false
  | .choice _ => settled .cancelled false
  | .tooShort =>
    if request.context = .newKeystore then
      match left with
      | 0 => settled .cancelled true
      | left + 1 => entering { request with error := some (Secret.lengthMessage minLength) } left
    else settled (.reply line) false
  | .acceptable => settled (.reply line) false

theorem take_entering (minLength : Nat) (request : SecretRequest) (left : Nat) (a : Answer) :
    ∃ line, (entering request left).take minLength a =
      byShade minLength request left line (a.shade minLength) := by
  cases a with
  | dismissed => exact ⟨[], rfl⟩
  | choice yes => exact ⟨[], rfl⟩
  | secret value =>
    refine ⟨value ++ "\n", ?_⟩
    by_cases hempty : value.isEmpty = true
    · simp [take, Answer.shade, byShade, hempty]
    · by_cases hshort : value.length < minLength
      · by_cases hnew : request.context = .newKeystore
        · cases left <;>
            simp [take, Answer.shade, byShade, hempty, hshort, hnew, Secret.complaint?,
              Secret.tooShort]
        · simp [take, Answer.shade, byShade, hempty, hshort, hnew, Secret.complaint?,
            Secret.tooShort]
      · simp [take, Answer.shade, byShade, hempty, hshort, Secret.complaint?, Secret.tooShort]

theorem byShade_alike (minLength : Nat) (request : SecretRequest) (left : Nat) (line line' : Text)
    (shade : Shade) :
    Alike (byShade minLength request left line shade)
      (byShade minLength request left line' shade) := by
  cases shade with
  | dismissal => exact .same _
  | choice yes => exact .same _
  | tooShort =>
    by_cases hnew : request.context = .newKeystore
    · simpa only [byShade, hnew, if_true] using Alike.same _
    · simpa only [byShade, hnew, if_false] using Alike.replies line line' false
  | acceptable => exact .replies line line' false

/-- Answers of one shade move an exchange alike. -/
theorem take_of_shade (minLength : Nat) (exchange : Resolution) {a a' : Answer}
    (h : a.shade minLength = a'.shade minLength) :
    Alike (exchange.take minLength a) (exchange.take minLength a') := by
  cases exchange with
  | confirming question =>
    have hsame := take_confirming_of_shade minLength question h
    simpa only [hsame] using Alike.same _
  | entering request left =>
    obtain ⟨line, hline⟩ := take_entering minLength request left a
    obtain ⟨line', hline'⟩ := take_entering minLength request left a'
    simpa only [hline, hline', h] using byShade_alike minLength request left line line' _
  | settled response exhausted => exact .same _

end Resolution

namespace Run

/-! ## What a run shows -/

def Effect.redacted : Effect → Effect
  | write _ => write []
  | effect => effect

def responses (r : Run) (_ : Instant) (event : Event) : List Response :=
  match r.phase, event with
  | .resolving _ exchange, .answered answer _ =>
    match exchange.take r.minPasswordLength answer with
    | .settled response _ => [response]
    | _ => []
  | _, _ => []

def gathered {α : Type} (note : Run → Instant → Event → List α) (r : Run) :
    List (Instant × Event) → List α
  | [] => []
  | e :: later => note r e.1 e.2 ++ gathered note (r.step e.1 e.2).1 later

/-- All that a run asks for is what each event makes it ask for. -/
theorem map_effects {α : Type} (f : Effect → α) (r : Run) (events : List (Instant × Event)) :
    (r.effects events).map f =
      r.gathered (fun r now event => (r.step now event).2.map f) events := by
  induction events generalizing r with
  | nil => rfl
  | cons e later ih =>
    have hlater := ih (r.step e.1 e.2).1
    simp only [effects, gathered, List.map_append, hlater]

theorem map_gathered {α β : Type} (f : α → β) (note : Run → Instant → Event → List α) (r : Run)
    (events : List (Instant × Event)) :
    (r.gathered note events).map f =
      r.gathered (fun r now event => (note r now event).map f) events := by
  induction events generalizing r with
  | nil => rfl
  | cons e later ih =>
    have hlater := ih (r.step e.1 e.2).1
    simp only [gathered, List.map_append, hlater]

/-! ## One event -/

/-- Two events that differ in a secret, if at all, and then give answers of one shade. -/
inductive Event.Alike (minLength : Nat) : Event → Event → Prop where
  | same (event) : Alike minLength event event
  | answered {answer answer'} (glimpse)
      (h : answer.shade minLength = answer'.shade minLength) :
      Alike minLength (.answered answer glimpse) (.answered answer' glimpse)

variable {r : Run} {now : Instant}

theorem redacted_writing (r : Run) (line line' : Text) (glimpse : Glimpse) :
    (r.writing line glimpse).map Effect.redacted =
      (r.writing line' glimpse).map Effect.redacted := by
  unfold writing
  split
  · rfl
  · rfl

/-- Whatever the reply is, the run goes on in the same way. -/
theorem reply_alike (r : Run) (now : Instant) (line line' : Text) (glimpse : Glimpse) :
    (r.reply now line glimpse).1 = (r.reply now line' glimpse).1 ∧
    (r.reply now line glimpse).2.map Effect.redacted =
      (r.reply now line' glimpse).2.map Effect.redacted := by
  refine ⟨rfl, ?_⟩
  simp only [reply, List.map_append]
  split
  · simp only [redacted_writing _ line line' glimpse]
  · rfl

/-- All that an event brings about, the line that is written aside. -/
structure Indistinct (r : Run) (now : Instant) (event event' : Event) : Prop where
  -- the run goes on in the same way
  state : (r.step now event).1 = (r.step now event').1
  effects : (r.step now event).2.map Effect.redacted = (r.step now event').2.map Effect.redacted
  details : r.details now event = r.details now event'
  -- what the exchange comes to looks the same
  responses : (r.responses now event).map Response.redacted =
    (r.responses now event').map Response.redacted

theorem step_alike {event event' : Event} (h : event.Alike r.minPasswordLength event') :
    r.Indistinct now event event' := by
  cases h with
  | same => exact ⟨rfl, rfl, rfl, rfl⟩
  | @answered answer answer' glimpse hshade =>
    cases hphase : r.phase with
    | «over» outcome =>
      constructor <;> simp [step, details, responses, hphase]
    | listening =>
      constructor <;> simp [step, stepListening, details, responses, hphase]
    | resolving prompt exchange =>
      have halike := exchange.take_of_shade r.minPasswordLength hshade
      generalize htake : exchange.take r.minPasswordLength answer = next at halike
      generalize htake' : exchange.take r.minPasswordLength answer' = next' at halike
      cases halike with
      | same =>
        constructor <;>
          simp only [step, stepResolving, takeAnswer, details, answerDetails, responses, hphase,
            htake, htake']
      | replies line line' exhausted =>
        -- only the two lines differ, and they go nowhere but to the child
        obtain ⟨hstate, heffects⟩ := reply_alike r now line line' glimpse
        constructor
        · simp only [step, stepResolving, takeAnswer, hphase, htake, htake', hstate]
        · simpa only [step, stepResolving, takeAnswer, hphase, htake, htake'] using heffects
        · simp only [details, answerDetails, hphase, htake, htake']
        · simp only [responses, hphase, htake, htake']
          rfl

/-! ## Whole runs -/

/-- The same events at the same instants, but for secrets of the same shades. -/
def Alike (minLength : Nat) (events events' : List (Instant × Event)) : Prop :=
  List.Forall₂ (fun e e' => e.1 = e'.1 ∧ e.2.Alike minLength e'.2) events events'

variable {minLength : Nat} {events events' : List (Instant × Event)}

/-- A run forgets each secret at once: events that are alike lead to the same run. -/
theorem after_alike (hmin : r.minPasswordLength = minLength) (h : Alike minLength events events') :
    r.after events = r.after events' := by
  -- both runs are the same one after each step, so that the next step starts from one run
  induction h generalizing r with
  | nil => rfl
  | @cons e e' later later' hhead hlater ih =>
    obtain ⟨now, event⟩ := e
    obtain ⟨now', event'⟩ := e'
    obtain ⟨rfl, halike⟩ := hhead
    subst hmin
    have hstate : (r.step now event).1 = (r.step now event').1 := (step_alike halike).state
    calc
      r.after ((now, event) :: later) = (r.step now event).1.after later := rfl
      _ = (r.step now event).1.after later' := ih (step_minPasswordLength r now event)
      _ = (r.step now event').1.after later' := by rw [hstate]

/-- What does not depend on the secret of one event, does not depend on the secrets of a run. -/
theorem gathered_alike {α : Type} {note : Run → Instant → Event → List α}
    (hnote : ∀ {r now event event'}, Indistinct r now event event' →
      note r now event = note r now event')
    (hmin : r.minPasswordLength = minLength) (h : Alike minLength events events') :
    r.gathered note events = r.gathered note events' := by
  induction h generalizing r with
  | nil => rfl
  | @cons e e' later later' hhead hlater ih =>
    obtain ⟨now, event⟩ := e
    obtain ⟨now', event'⟩ := e'
    obtain ⟨rfl, halike⟩ := hhead
    subst hmin
    have hboth : Indistinct r now event event' := step_alike halike
    calc
      r.gathered note ((now, event) :: later)
          = note r now event ++ (r.step now event).1.gathered note later := rfl
      _ = note r now event ++ (r.step now event).1.gathered note later' := by
            rw [ih (step_minPasswordLength r now event)]
      _ = note r now event' ++ (r.step now event').1.gathered note later' := by
            rw [hnote hboth, hboth.state]

theorem start_minPasswordLength (invocation : Invocation) (options : RunOptions)
    (spawned : Except IoError Unit) :
    (start invocation options spawned).1.minPasswordLength = options.minPasswordLength := by
  cases spawned with
  | ok _ => rfl
  | error cause => rfl

/--
No secret is told to anybody but the child.  Take two runs of a command that are told the same at
the same instants, except for secrets, each of which is in both runs empty, too short for a new
keystore, or acceptable.  Then the runs come to the same outcome; they ask for the same effects in
the same order (the questions that are put, what is shown and what is logged), but for what stands
in the lines that are written to the child; they tell the same details; and what their exchanges
come to has the same form for diagnostics.  That form says nothing of a reply, nor does the form of
preset answers say anything of their password.
-/
theorem secrecy_after (invocation : Invocation) (options : RunOptions)
    (spawned : Except IoError Unit) (events events' : List (Instant × Event))
    (h : Alike options.minPasswordLength events events') :
    let start := (start invocation options spawned).1
    start.after events = start.after events' ∧
    (start.effects events).map Effect.redacted = (start.effects events').map Effect.redacted ∧
    start.gathered details events = start.gathered details events' ∧
    (start.gathered responses events).map Response.redacted =
      (start.gathered responses events').map Response.redacted ∧
    (∀ line line', (Response.reply line).redacted = (Response.reply line').redacted) ∧
    (∀ createKeypair password password',
      PresetAnswers.redacted ⟨createKeypair, some password⟩ =
        PresetAnswers.redacted ⟨createKeypair, some password'⟩) := by
  intro start
  have hmin : start.minPasswordLength = options.minPasswordLength :=
    start_minPasswordLength invocation options spawned
  refine ⟨after_alike hmin h, ?_, ?_, ?_, fun _ _ => rfl, fun _ _ _ => rfl⟩
  · simp only [map_effects]
    exact gathered_alike Indistinct.effects hmin h
  · exact gathered_alike Indistinct.details hmin h
  · simp only [map_gathered]
    exact gathered_alike Indistinct.responses hmin h

/-- A password that is too short, then one that will do: only the line that is written differs. -/
theorem secrecy_after_retry :
    let told (first second : Text) : List (Instant × Event) :=
      [(⟨0⟩, .chunk ⟨.output, "Enter password to encrypt keystore: ".toList⟩),
        (⟨9⟩, .settled ⟨none, none⟩), (⟨20⟩, .answered (.secret first) ⟨none, none⟩),
        (⟨30⟩, .answered (.secret second) ⟨none, none⟩)]
    let here := told "horse".toList "correct horse".toList
    let there := told "hunter2".toList "hunter22".toList
    let r := (start ⟨"deploy".toList, [], none, ⟨1000⟩⟩ ⟨⟨9⟩, 8⟩ (.ok ())).1
    Alike 8 here there ∧
      r.after here = r.after there ∧
      (r.effects here).map Effect.redacted = (r.effects there).map Effect.redacted ∧
      r.gathered details here = r.gathered details there ∧
      (r.effects here).filterMap Effect.sign? ≠ (r.effects there).filterMap Effect.sign? := by
  intro told here there r
  have halike : Alike 8 here there := by
    refine .cons ⟨rfl, .same _⟩ (.cons ⟨rfl, .same _⟩ (.cons ⟨rfl, ?_⟩ (.cons ⟨rfl, ?_⟩ .nil)))
    · exact .answered _ (by decide)
    · exact .answered _ (by decide)
  obtain ⟨hstate, heffects, hdetails, -⟩ :=
    secrecy_after ⟨"deploy".toList, [], none, ⟨1000⟩⟩ ⟨⟨9⟩, 8⟩ (.ok ()) here there halike
  exact ⟨halike, hstate, heffects, hdetails, by decide +kernel⟩

end Run
end ContractAssist
