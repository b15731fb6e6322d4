import ContractAssist.Proofs.Prompt.LineClass
import ContractAssist.Prompt.Session

/-!
# Operation — the runs of a session

A session lives by four operations.  This module makes a run of them a value, and takes
`Session.observe` apart, so that a law of a session is proved for one question or one notice and
carried over to a chunk by induction:

* `Session.perform` does one `Session.Operation`, `Session.after` does a list of them;
* `readLine_eq`: a line first takes back a flag, if it does, and then asks, if it does;
* `Session.linesRead` are the lines that a chunk makes the session read, each with the mark whether
  a notice on it is news;
* `observe_fst`: to observe a chunk is to read these lines one after another and to keep the last
  one as the tail;
* `observe_unbroken` and `observe_terminated`: a chunk of one line is read with the tail in front.
-/

namespace ContractAssist
namespace Session

/-! ## Runs -/

/-- What can be done with a session, with all that is passed along. -/
inductive Operation where
  | observe (chunk : Text) (now : Instant)
  -- asks for the question whose text has settled
  | takeReady (now : Instant)
  -- reports that a question was dealt with
  | finishResolution (now : Instant)
  | markDone
  deriving DecidableEq, Repr

def perform (s : Session) : Operation → Session
  | .observe chunk now => (s.observe chunk now).1
  | .takeReady now => (s.takeReady now).1
  | .finishResolution now => s.finishResolution now
  | .markDone => s.markDone

def after (s : Session) (operations : List Operation) : Session :=
  operations.foldl perform s

@[simp] theorem after_nil (s : Session) : s.after [] = s := rfl

@[simp] theorem after_cons (s : Session) (op : Operation) (r : List Operation) :
    s.after (op :: r) = (s.perform op).after r := rfl

theorem after_append (s : Session) (before later : List Operation) :
    s.after (before ++ later) = (s.after before).after later :=
  List.foldl_append

/-- What the empty session has and every operation keeps, holds after any run. -/
theorem after_induction {P : Session → Prop} {s : Session} (hs : P s)
    (hstep : ∀ s op, P s → P (s.perform op)) (operations : List Operation) :
    P (s.after operations) := by
  induction operations generalizing s with
  | nil => exact hs
  | cons op r ih => exact ih (hstep s op hs)

/-! ## Reading one line -/

/-- The session in which a password may be asked for again. -/
def reopened (s : Session) : Session :=
  { s with handled := s.handled.set .password false }

/-- A line lets a password be asked for again iff it is a notice and news. -/
def reopens (news : Bool) (line : Text) : Bool :=
  news && (classify line).isResetSignal

/-- The session after what a line says about passwords, and before what it asks. -/
def noticed (s : Session) (news : Bool) (line : Text) : Session :=
  if reopens news line then s.reopened else s

/-- What a notice keeps holds whether or not the line is one. -/
theorem noticed_induction {P : Session → Prop} {s : Session} (hreopened : P s.reopened) (hs : P s)
    (news : Bool) (line : Text) : P (s.noticed news line) := by
  unfold noticed
  split
  · exact hreopened
  · exact hs

theorem noticed_state (s : Session) (news : Bool) (line : Text) :
    (s.noticed news line).state = s.state :=
  noticed_induction (P := fun s' => s'.state = s.state) rfl rfl news line

theorem noticed_handled (s : Session) (news : Bool) (line : Text) :
    (s.noticed news line).handled =
      if reopens news line then s.handled.set .password false else s.handled := by
  unfold noticed
  split <;> rfl

/-- A line first takes back a flag, if it does, and then asks, if it does. -/
theorem readLine_eq (s : Session) (now : Instant) (news : Bool) (line : Text) :
    s.readLine now news line =
      match (classify line).question? with
      | some kind => (s.noticed news line).register kind line now
      | none => (s.noticed news line, false) := by
  by_cases hblank : Text.allBlank line = true
  · -- a line of blanks is not even classified, but it would mean nothing
    have hplain : classify line = .plain := classify_of_allBlank hblank
    simp [readLine, hblank, noticed, reopens, hplain, LineClass.isResetSignal, LineClass.question?]
  · have hreopens : reopens news line = ((classify line).isResetSignal && news) := by
      cases news <;> simp [reopens]
    rw [noticed, hreopens]
    cases hkind : (classify line).question? with
    | none => simp [readLine, hblank, hkind, reopened]
    | some kind => simp [readLine, hblank, hkind, reopened]

theorem readLine_cases (s : Session) (now : Instant) (news : Bool) (line : Text) :
    s.readLine now news line = (s.noticed news line, false) ∨
    ∃ kind, (classify line).question? = some kind ∧
      s.readLine now news line = (s.noticed news line).register kind line now := by
  rw [readLine_eq]
  cases hkind : (classify line).question? with
  | none => exact .inl rfl
  | some kind => exact .inr ⟨kind, rfl, rfl⟩

/-- What notices and questions keep, reading a line keeps. -/
theorem readLine_induction {P : Session → Prop} {now : Instant}
    (hreopened : ∀ s, P s → P s.reopened)
    (hregister : ∀ s kind line, (classify line).question? = some kind → P s →
      P (s.register kind line now).1) {s : Session} (hs : P s) (news : Bool) (line : Text) :
    P (s.readLine now news line).1 := by
  have hnoticed : P (s.noticed news line) := noticed_induction (hreopened s hs) hs news line
  rcases readLine_cases s now news line with hread | ⟨kind, hkind, hread⟩
  · rw [hread]
    exact hnoticed
  · rw [hread]
    exact hregister _ kind line hkind hnoticed

/-! ## Reading a chunk line by line -/

/--
The lines that a chunk makes a session read.  The first one goes on from the tail; a notice on it is
news unless the tail was a notice already.
-/
def linesRead (s : Session) (chunk : Text) : List (Bool × Text) :=
  (!s.carriesSignal, s.tail ++ (Text.lines chunk).1.body) ::
    (Text.lines chunk).2.map fun l => (true, l.body)

/-- The line that is still unterminated after a chunk. -/
def openLine (s : Session) (chunk : Text) : Text :=
  match (Text.lines chunk).2.getLast? with
  | some l => l.body
  | none => s.tail ++ (Text.lines chunk).1.body

def readLines (s : Session) (now : Instant) (lines : List (Bool × Text)) : Session :=
  lines.foldl (fun s l => (s.readLine now l.1 l.2).1) s

@[simp] theorem readLines_nil (s : Session) (now : Instant) : s.readLines now [] = s := rfl

@[simp] theorem readLines_cons (s : Session) (now : Instant) (l : Bool × Text)
    (r : List (Bool × Text)) :
    s.readLines now (l :: r) = (s.readLine now l.1 l.2).1.readLines now r := rfl

theorem observeLines_fst (s : Session) (now : Instant) (lines : List Text.Line) :
    (s.observeLines now lines).1 = s.readLines now (lines.map fun l => (true, l.body)) := by
  induction lines generalizing s with
  | nil => rfl
  | cons l r ih => exact ih (s.observeLine now true [] l).1

theorem observe_done {s : Session} (h : s.isDone = true) (chunk : Text) (now : Instant) :
    s.observe chunk now = (s, ⟨false, chunk⟩) := by
  simp [observe, h]

/-- To observe a chunk is to read its lines and to keep what is left unterminated. -/
theorem observe_fst {s : Session} (h : s.isDone = false) (chunk : Text) (now : Instant) :
    (s.observe chunk now).1 =
      { s.readLines now (s.linesRead chunk) with tail := clip (s.openLine chunk) } := by
  have hrest := observeLines_fst
    (s.readLine now (!s.carriesSignal) (s.tail ++ (Text.lines chunk).1.body)).1 now
    (Text.lines chunk).2
  simp only [linesRead, readLines_cons, ← hrest]
  simp only [observe, h, Bool.false_eq_true, if_false]
  rfl

/-- What notices and questions keep, and the tail does not matter to, reading a chunk keeps. -/
theorem observe_induction {P : Session → Prop} {now : Instant}
    (hreopened : ∀ s, P s → P s.reopened)
    (hregister : ∀ s kind line, (classify line).question? = some kind → P s →
      P (s.register kind line now).1)
    (htail : ∀ s tail, P s → P { s with tail := tail }) {s : Session} (hs : P s) (chunk : Text) :
    P (s.observe chunk now).1 := by
  have hlines : ∀ lines : List (Bool × Text), P (s.readLines now lines) := by
    intro lines
    induction lines generalizing s with
    | nil => exact hs
    | cons l r ih => exact ih (readLine_induction hreopened hregister hs l.1 l.2)
  cases hdone : s.isDone with
  | true =>
    rw [observe_done hdone]
    exact hs
  | false =>
    rw [observe_fst hdone]
    exact htail _ _ (hlines _)

/-! ## Chunks of one line -/

/-- A blank tail is no notice anyway, so only its class counts. -/
theorem carriesSignal_eq (s : Session) : s.carriesSignal = (classify s.tail).isResetSignal := by
  cases hblank : Text.allBlank s.tail with
  | false => simp [carriesSignal, hblank]
  | true => simp [carriesSignal, hblank, classify_of_allBlank hblank, LineClass.isResetSignal]

/-- A chunk without breaks only adds to the line that the tail begins. -/
theorem observe_unbroken {s : Session} (h : s.isDone = false) {chunk : Text}
    (hchunk : Text.LineBreakFree chunk) (now : Instant) :
    let read := s.readLine now (!s.carriesSignal) (s.tail ++ chunk)
    s.observe chunk now =
      ({ read.1 with tail := clip (s.tail ++ chunk) }, ⟨read.2, if read.2 then [] else chunk⟩) := by
  simp [observe, h, Text.lines_of_lineBreakFree hchunk, observeLine, observeLines,
    Observation.append, Text.Line.whole]

@[simp] theorem clip_nil : clip [] = [] := rfl

@[simp] theorem readLine_nil (s : Session) (now : Instant) (news : Bool) :
    s.readLine now news [] = (s, false) := rfl

/-- With a break behind it, the line is read just the same, but nothing of it is carried on. -/
theorem observe_terminated {s : Session} (h : s.isDone = false) {chunk : Text} {c : Char}
    (hchunk : Text.LineBreakFree chunk) (hc : Text.isLineBreak c = true) (now : Instant) :
    let read := s.readLine now (!s.carriesSignal) (s.tail ++ chunk)
    s.observe (chunk ++ [c]) now =
      ({ read.1 with tail := [] }, ⟨read.2, if read.2 then [] else chunk ++ [c]⟩) := by
  intro read
  simp only [observe, h, Text.lines_append_break hchunk hc, observeLine, observeLines,
    List.nil_append, readLine_nil, List.getLast?_singleton, clip_nil]
  simp [read, Observation.append, Text.Line.whole]

end Session
end ContractAssist
