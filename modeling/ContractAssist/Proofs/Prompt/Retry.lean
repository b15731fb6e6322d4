import ContractAssist.Proofs.Prompt.Fragment
import ContractAssist.Proofs.Prompt.Served

/-!
# Retry — passwords that are rejected one after another

A line that rejects a password and asks again lets the next question through by itself.  So a child
that rejects many passwords should be answered each time.  That depends on how its lines end, since
a notice takes effect once on a line:

1. `serves_rejection_iff`: a rejection is served unless the line that it goes on was a notice
   before, or does not ask for a password as a whole;
2. `Rejection.after_operations`: a terminated rejection is answered and leaves everything as it was,
   so that any number of them are;
3. `OnLine.length_noticesIn_le_one`: of the rejections on one unterminated line only the first is
   news, so that one of them is answered at most.
-/

namespace ContractAssist
namespace Session

open LineClass

variable {s : Session} {chunk : Text} {kind : PromptKind}

/-! ## One rejection -/

/-- A password that counts as asked is asked for again iff the line becomes a notice, and asks. -/
theorem serves_rejection_iff {now later : Instant} (hidle : s.state = .idle)
    (hasked : s.handled.password = true) (hchunk : Text.LineBreakFree chunk)
    (hclass : classify chunk = .passwordRejected (some kind))
    (hsettled : later.reached (now.afterOrSame s.debounce) = true) :
    let line := s.tail ++ chunk
    s.Serves chunk .password now later ↔
      (classify s.tail).isResetSignal = false ∧
        acceptsPassword line (Text.folded line) = false ∧ startsWithGlyph line = false ∧
        Text.contains maskedMarker line = false := by
  intro line
  have hpart : chunk <:+: line := (List.suffix_append s.tail chunk).isInfix
  have hasks : AsksAbout .password chunk :=
    ⟨kind, (eq_passwordRejected_some_iff.1 hclass).1, category_of_passwordRejected hclass⟩
  have hrejects : startsWithGlyph line = false →
      rejectsPassword line (Text.folded line) = true := fun hglyph =>
    rejectsPassword_of_part (rejectsPassword_of_passwordRejected hclass) hpart hglyph
  -- the flag is set, so it has to be taken back by this very line
  have hflag : (s.readLine now (!s.carriesSignal) line).1.handled.get .password = false ↔
      (classify s.tail).isResetSignal = false ∧ (classify line).isResetSignal = true := by
    rw [readLine_handled, reopens, carriesSignal_eq]
    cases (classify s.tail).isResetSignal <;> cases (classify line).isResetSignal <;>
      simp [HandledFlags.get, HandledFlags.set, hasked]
  rw [serves_iff hidle hchunk hsettled, asksAbout_password_of_part_iff hasks hpart, hflag]
  constructor
  · rintro ⟨⟨haccepts, hglyph, hmasked, -⟩, hnews, -⟩
    exact ⟨hnews, haccepts, hglyph, hmasked⟩
  · rintro ⟨hnews, haccepts, hglyph, hmasked⟩
    refine ⟨⟨haccepts, hglyph, hmasked, .inl (hrejects hglyph)⟩, hnews, ?_⟩
    rw [classify_isResetSignal, hrejects hglyph, Bool.or_true]

/-! ## Terminated rejections -/

/-- A terminated line that rejects a password and asks again, and when it is dealt with. -/
structure Rejection where
  notice : Text
  kind : PromptKind
  ending : Char
  heard : Instant
  asked : Instant
  dealt : Instant
  unbroken : Text.LineBreakFree notice
  rejects : classify notice = .passwordRejected (some kind)
  ends : Text.isLineBreak ending = true

namespace Rejection

def operations (r : Rejection) : List Operation :=
  [.observe (r.notice ++ [r.ending]) r.heard, .takeReady r.asked, .finishResolution r.dealt]

def Settled (r : Rejection) (debounce : Duration) : Prop :=
  r.asked.reached (r.heard.afterOrSame debounce) = true

instance (r : Rejection) (debounce : Duration) : Decidable (r.Settled debounce) :=
  inferInstanceAs (Decidable (r.asked.reached (r.heard.afterOrSame debounce) = true))

/-- On a line of its own, a rejection lets its question through. -/
theorem observe_notice (r : Rejection) (hidle : s.state = .idle)
    (htail : Text.allBlank s.tail = true) :
    (s.observe (r.notice ++ [r.ending]) r.heard).1 =
      { s with
        state := .awaiting (.fresh r.kind (s.tail ++ r.notice)) (r.heard.afterOrSame s.debounce)
        handled := s.handled.set .password false
        tail := [] } := by
  have hsilent : s.carriesSignal = false := by
    rw [carriesSignal_eq, classify_of_allBlank htail]
    rfl
  have hjoined : classify (s.tail ++ r.notice) = .passwordRejected (some r.kind) := by
    have hpadded : classify (s.tail ++ r.notice ++ []) = classify r.notice :=
      classify_padded r.notice htail rfl
    rw [List.append_nil] at hpadded
    exact hpadded.trans r.rejects
  have hread : s.readLine r.heard true (s.tail ++ r.notice) =
      ({ s with
          state := .awaiting (.fresh r.kind (s.tail ++ r.notice)) (r.heard.afterOrSame s.debounce)
          handled := s.handled.set .password false }, true) := by
    have hnoticed : s.noticed true (s.tail ++ r.notice) = s.reopened := by
      simp [noticed, reopens, hjoined, isResetSignal]
    rw [readLine_eq, hjoined]
    simp [question?, hnoticed, register, reopened, hidle, category_of_passwordRejected r.rejects]
  rw [observe_terminated (isDone_of_idle hidle) r.unbroken r.ends, hsilent]
  simp [hread]

/-- A terminated rejection is answered, and leaves everything as it was. -/
theorem after_operations (r : Rejection) (hidle : s.state = .idle) (hqueue : s.queue = [])
    (hasked : s.handled.password = true) (htail : Text.allBlank s.tail = true)
    (hsettled : r.Settled s.debounce) :
    (s.handOuts r.operations).map Prompt.category = [.password] ∧
      s.after r.operations = { s with tail := [] } := by
  have hobserve := observe_notice r hidle htail
  have hcategory : (Prompt.fresh r.kind (s.tail ++ r.notice)).category = .password :=
    category_of_passwordRejected r.rejects
  -- the flag that the notice took back is set again
  have hflags : (s.handled.set .password false).set .password true = s.handled := by
    rw [HandledFlags.set, HandledFlags.set, ← hasked]
  have htake : (s.observe (r.notice ++ [r.ending]) r.heard).1.takeReady r.asked =
      ({ s with state := .resolving r.kind, tail := [] },
        some (Prompt.fresh r.kind (s.tail ++ r.notice)).handedOut) := by
    have hready : r.asked.reached (r.heard.afterOrSame s.debounce) = true := hsettled
    rw [hobserve]
    simp only [takeReady, hready, if_true, hcategory, hflags]
    rfl
  constructor
  · have hout : s.handOuts r.operations =
        ((s.observe (r.notice ++ [r.ending]) r.heard).1.takeReady r.asked).2.toList := by
      simp [operations, handOuts, handedOut?, perform]
    rw [hout, htake, Option.toList_some, List.map_singleton, Prompt.category_handedOut, hcategory]
  · have hafter : s.after r.operations =
        ((s.observe (r.notice ++ [r.ending]) r.heard).1.takeReady r.asked).1.finishResolution
          r.dealt := rfl
    rw [hafter, htake]
    simp [finishResolution, isResolving, hqueue, ← hidle]

/-- Any number of rejections are answered, if the child terminates its lines. -/
theorem handOuts_operations (rejections : List Rejection) (hidle : s.state = .idle)
    (hqueue : s.queue = []) (hasked : s.handled.password = true)
    (htail : Text.allBlank s.tail = true) (hsettled : ∀ r ∈ rejections, r.Settled s.debounce) :
    (s.handOuts (rejections.flatMap operations)).map Prompt.category =
      List.replicate rejections.length .password := by
  induction rejections generalizing s with
  | nil => rfl
  | cons r others ih =>
    obtain ⟨hfirst, hafter⟩ :=
      r.after_operations hidle hqueue hasked htail (hsettled r List.mem_cons_self)
    have hothers : (({ s with tail := [] } : Session).handOuts
        (others.flatMap operations)).map Prompt.category =
          List.replicate others.length .password :=
      ih hidle hqueue hasked rfl fun r' hr' => hsettled r' (List.mem_cons_of_mem r hr')
    rw [List.flatMap_cons, handOuts_append, hafter, List.map_append, hfirst, hothers]
    rfl

end Rejection

/-! ## Unterminated rejections -/

/-- The output that is read goes on the line of the tail, and the line is kept as a whole. -/
structure OnLine (s : Session) (operations : List Operation) : Prop where
  alive : s.isDone = false
  endless : .markDone ∉ operations
  unbroken : Text.LineBreakFree (heard operations)
  fits : Text.byteSize (s.tail ++ heard operations) ≤ tailLimit

theorem OnLine.unbroken_text {op : Operation} {r : List Operation} (h : s.OnLine (op :: r)) :
    Text.LineBreakFree op.text := by
  apply h.unbroken.of_part
  rw [heard_cons]
  exact (List.prefix_append op.text (heard r)).isInfix

theorem OnLine.step {op : Operation} {r : List Operation} (h : s.OnLine (op :: r)) :
    (s.perform op).tail = s.tail ++ op.text ∧ (s.perform op).OnLine r := by
  have hend : op ≠ .markDone := fun heq => h.endless (by simp [heq])
  have hfits := h.fits
  rw [heard_cons, ← List.append_assoc] at hfits
  have htail : (s.perform op).tail = s.tail ++ op.text := by
    cases op with
    | observe chunk now =>
      have hshort : Text.byteSize (s.tail ++ chunk) ≤ tailLimit := by
        simp only [Operation.text, Text.byteSize_append] at hfits ⊢
        omega
      exact observe_tail_of_le h.alive h.unbroken_text hshort now
    | takeReady now => simp [perform, takeReady_tail, Operation.text]
    | finishResolution now => simp [perform, finishResolution_tail, Operation.text]
    | markDone => exact absurd rfl hend
  refine ⟨htail, ?_, fun hmem => h.endless (List.mem_cons_of_mem op hmem), ?_, ?_⟩
  · simp [perform_isDone, h.alive, hend]
  · apply h.unbroken.of_part
    rw [heard_cons]
    exact (List.suffix_append op.text (heard r)).isInfix
  · rw [htail]
    exact hfits

/-- On the line, a chunk holds a notice just if it makes the line one. -/
theorem OnLine.noticesOf_observe {now : Instant} {r : List Operation}
    (h : s.OnLine (.observe chunk now :: r)) :
    s.noticesOf (.observe chunk now) =
      if reopens (!s.carriesSignal) (s.tail ++ chunk) then [(!s.carriesSignal, s.tail ++ chunk)]
      else [] := by
  have hchunk : Text.LineBreakFree chunk := h.unbroken_text
  simp [noticesOf, notices, h.alive, linesRead, Text.lines_of_lineBreakFree hchunk,
    List.filter_cons]

/-- Once the line rejects a password, nothing that follows on it is news. -/
theorem OnLine.noticesIn_eq_nil {operations : List Operation} (h : s.OnLine operations)
    (hrejects : rejectsPassword s.tail (Text.folded s.tail) = true) :
    s.noticesIn operations = [] := by
  induction operations generalizing s with
  | nil => rfl
  | cons op r ih =>
    obtain ⟨htail, hr⟩ := h.step
    have hop : s.noticesOf op = [] := by
      cases op with
      | observe chunk now =>
        have hcarries : s.carriesSignal = true := by
          rw [carriesSignal_eq, classify_isResetSignal, hrejects, Bool.or_true]
        simp [h.noticesOf_observe, hcarries, reopens]
      | takeReady now => rfl
      | finishResolution now => rfl
      | markDone => rfl
    have hlater : rejectsPassword (s.perform op).tail (Text.folded (s.perform op).tail) = true := by
      rw [htail]
      exact rejectsPassword_append op.text hrejects
    rw [noticesIn, hop, List.nil_append]
    exact ih hr hlater

/-- Of the rejections that arrive on the line, only the first is news. -/
theorem OnLine.length_noticesIn_le_one {operations : List Operation} (h : s.OnLine operations)
    (hglyph : startsWithGlyph s.tail = false)
    (hrejecting : ∀ chunk now, .observe chunk now ∈ operations →
      ∃ kind, classify chunk = .passwordRejected (some kind)) :
    (s.noticesIn operations).length ≤ 1 := by
  induction operations generalizing s with
  | nil => exact Nat.zero_le 1
  | cons op r ih =>
    obtain ⟨htail, hr⟩ := h.step
    have hothers := fun chunk now hmem => hrejecting chunk now (List.mem_cons_of_mem op hmem)
    -- before the first rejection, the tail does not change
    have hquiet : s.noticesOf op = [] → op.text = [] →
        (s.noticesIn (op :: r)).length ≤ 1 := by
      intro hop htext
      rw [noticesIn, hop, List.nil_append]
      rw [htext, List.append_nil] at htail
      exact ih hr (by rw [htail]; exact hglyph) hothers
    cases op with
    | observe chunk now =>
      obtain ⟨kind, hclass⟩ := hrejecting chunk now List.mem_cons_self
      have hchunk := rejectsPassword_of_passwordRejected hclass
      have hrejects : rejectsPassword (s.tail ++ chunk) (Text.folded (s.tail ++ chunk)) = true :=
        rejectsPassword_of_part hchunk (List.suffix_append s.tail chunk).isInfix
          (startsWithGlyph_append_eq_false hglyph (startsWithGlyph_of_rejectsPassword hchunk))
      have hlater := hr.noticesIn_eq_nil (by rw [htail]; exact hrejects)
      rw [noticesIn, hlater, List.append_nil, h.noticesOf_observe]
      split <;> simp
    | takeReady now => exact hquiet rfl rfl
    | finishResolution now => exact hquiet rfl rfl
    | markDone => exact hquiet rfl rfl

/-! ## Many rejections -/

/--
A password was asked for.  A rejection that asks again is served unless the line it goes on was a
notice already, or is no question about a password as a whole.  So any number of rejections are
answered one by one, if the child terminates its lines; but however many arrive on one unterminated
line, one of them is answered at most.
-/
theorem retries (hs : s.Reachable) (hidle : s.state = .idle)
    (hasked : s.handled.password = true) :
    (∀ chunk kind now later, Text.LineBreakFree chunk →
      classify chunk = .passwordRejected (some kind) →
      later.reached (now.afterOrSame s.debounce) = true →
      (s.Serves chunk .password now later ↔
        (classify s.tail).isResetSignal = false ∧
          acceptsPassword (s.tail ++ chunk) (Text.folded (s.tail ++ chunk)) = false ∧
          startsWithGlyph (s.tail ++ chunk) = false ∧
          Text.contains maskedMarker (s.tail ++ chunk) = false)) ∧
    (Text.allBlank s.tail = true → ∀ rejections : List Rejection,
      (∀ r ∈ rejections, r.Settled s.debounce) →
      (s.handOuts (rejections.flatMap Rejection.operations)).map Prompt.category =
        List.replicate rejections.length .password) ∧
    (startsWithGlyph s.tail = false → ∀ operations, s.OnLine operations →
      (∀ chunk now, .observe chunk now ∈ operations →
        ∃ kind, classify chunk = .passwordRejected (some kind)) →
      (s.handOuts operations).countP (fun p => p.category = .password) ≤ 1) := by
  refine ⟨?_, ?_, ?_⟩
  · intro chunk kind now later hchunk hclass hsettled
    exact serves_rejection_iff hidle hasked hchunk hclass hsettled
  · intro hblank rejections hsettled
    exact Rejection.handOuts_operations rejections hidle (hs.sound.idle hidle) hasked hblank
      hsettled
  · -- the flag is set, so each question has to be paid for by a notice
    intro hglyph operations hline hrejecting
    have hnone : s.vacancy .password = 0 := by simp [vacancy, HandledFlags.get, hasked]
    calc
      (s.handOuts operations).countP (fun p => p.category = .password)
        ≤ s.vacancy .password + (s.noticesIn operations).length :=
          countP_handOuts_le hs.sound operations .password
      _ = (s.noticesIn operations).length := by rw [hnone, Nat.zero_add]
      _ ≤ 1 := hline.length_noticesIn_le_one hglyph hrejecting

/-- Two rejections behind a terminated question are both answered if they are terminated as well. -/
theorem retries_terminated :
    let s := (new ⟨9⟩).after [.observe "password?\n".toList ⟨0⟩, .takeReady ⟨9⟩,
      .finishResolution ⟨9⟩]
    let rejection (heard asked : Instant) : Rejection :=
      { notice := "Wrong password?".toList, kind := .password .decrypt, ending := '\n'
        heard := heard, asked := asked, dealt := asked
        unbroken := by decide +kernel, rejects := by decide +kernel, ends := by decide }
    let chunk := "Wrong password?".toList
    let line : List Operation :=
      [.observe chunk ⟨20⟩, .takeReady ⟨29⟩, .finishResolution ⟨30⟩, .observe chunk ⟨40⟩,
        .takeReady ⟨49⟩]
    s.Serves chunk .password ⟨20⟩ ⟨29⟩ ∧
      (s.handOuts ([rejection ⟨20⟩ ⟨29⟩, rejection ⟨40⟩ ⟨49⟩].flatMap
        Rejection.operations)).map Prompt.category = [.password, .password] ∧
      (s.handOuts line).countP (fun p => p.category = .password) ≤ 1 := by
  intro s rejection chunk line
  have hreachable : s.Reachable := ⟨_, _, rfl⟩
  have hs : s = ⟨.idle, ⟨false, true⟩, [], [], ⟨9⟩⟩ := by decide +kernel
  have hclass : classify chunk = .passwordRejected (some (.password .decrypt)) := by decide +kernel
  -- what follows is decided of the state alone, without the operations that led to it
  clear_value s
  subst hs
  obtain ⟨hone, hterminated, hopen⟩ := retries hreachable rfl rfl
  refine ⟨?_, ?_, ?_⟩
  · exact (hone chunk _ ⟨20⟩ ⟨29⟩ (by decide +kernel) hclass (by decide)).2 (by decide +kernel)
  · refine hterminated rfl [rejection ⟨20⟩ ⟨29⟩, rejection ⟨40⟩ ⟨49⟩] ?_
    simp only [List.forall_mem_cons]
    exact ⟨by decide, by decide, by simp⟩
  · have hline : OnLine ⟨.idle, ⟨false, true⟩, [], [], ⟨9⟩⟩ line :=
      ⟨rfl, by decide +kernel, by decide +kernel, by decide +kernel⟩
    refine hopen rfl line hline ?_
    intro heard now hmem
    have hheard : heard = chunk := by
      simp only [line, List.mem_cons, Operation.observe.injEq, reduceCtorEq, List.not_mem_nil,
        or_false, false_or] at hmem
      rcases hmem with ⟨rfl, -⟩ | ⟨rfl, -⟩ <;> rfl
    exact ⟨_, hheard ▸ hclass⟩

/-- But the second rejection on an unterminated line is lost. -/
theorem second_rejection_lost :
    ¬ ∀ (s : Session) (chunk : Text) (kind : PromptKind) (now later : Instant),
      s.Reachable → s.state = .idle → s.handled.password = true →
      Text.LineBreakFree chunk → classify chunk = .passwordRejected (some kind) →
      later.reached (now.afterOrSame s.debounce) = true →
      s.Serves chunk .password now later := by
  intro h
  let s := (new ⟨0⟩).after
    [.observe "Enter password: ".toList ⟨0⟩, .takeReady ⟨0⟩, .finishResolution ⟨10⟩,
      .observe "Invalid password. Attempt 2/3, Enter password: ".toList ⟨20⟩, .takeReady ⟨20⟩,
      .finishResolution ⟨30⟩]
  let chunk := "Invalid password. Attempt 3/3, Enter password: ".toList
  have hreachable : s.Reachable := ⟨_, _, rfl⟩
  -- the first rejection was answered, and its line is carried on
  have hs : s = ⟨.idle, ⟨false, true⟩, [],
      "Enter password: Invalid password. Attempt 2/3, Enter password: ".toList, ⟨0⟩⟩ := by
    decide +kernel
  have hclass : classify chunk = .passwordRejected (some (.password .decrypt)) := by decide +kernel
  clear_value s
  subst hs
  have hserves := h _ chunk _ ⟨40⟩ ⟨40⟩ hreachable rfl rfl (by decide +kernel) hclass (by decide)
  exact absurd hserves (by decide +kernel)

end Session
end ContractAssist
