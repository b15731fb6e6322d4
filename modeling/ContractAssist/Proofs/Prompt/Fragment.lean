import ContractAssist.Proofs.Prompt.Drain
import ContractAssist.Proofs.Prompt.Growth

/-!
# Fragment — a question is asked once, however its line is cut

A line that arrives in pieces is read again with each piece.  Its beginnings may ask something else
than the whole line, or nothing yet, so that the same question could be missed, or asked twice.
Neither happens, since the line is `Due` from some piece on until its end:

1. `Poses.due_mono`: once a beginning of the line is due, all longer ones are;
2. `Reading` ties the state of a session to the beginning it has read: before the line is due,
   nothing of the category is pending, and from then on the question is pending or was handed out
   once;
3. `handOuts_fragmented` counts what is handed out until the session has been drained.
-/

namespace ContractAssist
namespace Session

/-! ## What a line poses -/

/--
A question of the category `c` is on the line.  If the category counted as `asked` when the line
began, a notice on the line has to let it be asked again.
-/
def Due (c : PromptCategory) (asked : Bool) (part : Text) : Prop :=
  AsksAbout c part ∧ (asked = true → (classify part).isResetSignal = true)

/-- The line asks for the category `c`, and is a notice just if the category counted as `asked`. -/
structure Poses (c : PromptCategory) (asked : Bool) (line : Text) : Prop where
  -- without the glyph, the line accepts no password
  glyph : LineClass.successGlyph ∉ line
  asks : AsksAbout c line
  -- it is a notice just if it has to be one
  signal : (classify line).isResetSignal = asked
  -- only a password is asked for again
  password : asked = true → c = .password

namespace Poses

open LineClass

variable {c : PromptCategory} {asked : Bool} {line part later : Text}

theorem glyph_of_part (h : Poses c asked line) (hpart : part <:+: line) : successGlyph ∉ part :=
  fun hmem => h.glyph (hpart.subset hmem)

/-- Without the glyph, notices are rejections. -/
theorem isResetSignal_eq (h : Poses c asked line) (hpart : part <:+: line) :
    (classify part).isResetSignal = rejectsPassword part (Text.folded part) := by
  rw [classify_isResetSignal, acceptsPassword_eq_false_of_not_mem (h.glyph_of_part hpart),
    Bool.false_or]

theorem signal_mono (h : Poses c asked line) (hpart : part <:+: later) (hlater : later <:+: line)
    (hsignal : (classify part).isResetSignal = true) : (classify later).isResetSignal = true := by
  rw [h.isResetSignal_eq (hpart.trans hlater)] at hsignal
  rw [h.isResetSignal_eq hlater]
  exact rejectsPassword_of_part hsignal hpart
    (startsWithGlyph_eq_false_of_not_mem (h.glyph_of_part hlater))

theorem asked_of_signal (h : Poses c asked line) (hpart : part <:+: line)
    (hsignal : (classify part).isResetSignal = true) : asked = true :=
  h.signal.symm.trans (h.signal_mono hpart (List.infix_refl line) hsignal)

theorem due (h : Poses c asked line) : Due c asked line :=
  ⟨h.asks, fun hasked => h.signal.trans hasked⟩

theorem asksForPassword_mono (h : Poses .password asked line) (hpart : part <:+: later)
    (hlater : later <:+: line) (hasks : asksForPassword part (Text.folded part) = true) :
    asksForPassword later (Text.folded later) = true := by
  -- the whole line shows no secret, so no part of it does
  have hline := (asksAbout_password_iff.1 h.asks).2.1
  have hmasked := Text.contains_eq_false_of_part (shown_of_asksForPassword hline).2 hlater
  exact asksForPassword_of_part hasks hpart
    (startsWithGlyph_eq_false_of_not_mem (h.glyph_of_part hlater)) hmasked

/-- Once the line is due, it stays so while it grows. -/
theorem due_mono (h : Poses c asked line) (hpart : part <:+: later) (hlater : later <:+: line)
    (hdue : Due c asked part) : Due c asked later := by
  obtain ⟨hasks, hnotice⟩ := hdue
  refine ⟨?_, fun hasked => h.signal_mono hpart hlater (hnotice hasked)⟩
  have haccepts := acceptsPassword_eq_false_of_not_mem (h.glyph_of_part hlater)
  cases c with
  | keypair =>
    have hunasked : asked ≠ true := fun hasked => by cases h.password hasked
    have hquiet : rejectsPassword later (Text.folded later) = false := by
      rw [← h.isResetSignal_eq hlater, Bool.eq_false_iff]
      exact fun hsignal => hunasked (h.asked_of_signal hlater hsignal)
    have hkeypair := (asksAbout_keypair_iff.1 hasks).2.2
    exact asksAbout_keypair_iff.2 ⟨haccepts, hquiet, asksForKeypair_of_part hkeypair hpart⟩
  | password =>
    have hpassword := h.asksForPassword_mono hpart hlater (asksAbout_password_iff.1 hasks).2.1
    refine asksAbout_password_iff.2 ⟨haccepts, hpassword, ?_⟩
    cases hasked : asked with
    | true =>
      -- the notice that `part` holds is still there
      left
      rw [← h.isResetSignal_eq hlater]
      exact h.signal_mono hpart hlater (hnotice hasked)
    | false =>
      -- a question about a keypair would take the place of the one on the whole line
      right
      rcases (asksAbout_password_iff.1 h.asks).2.2 with hrejects | hother
      · rw [← h.isResetSignal_eq (List.infix_refl line), h.signal, hasked] at hrejects
        cases hrejects
      · rw [Bool.eq_false_iff] at hother ⊢
        exact fun hkeypair => hother (asksForKeypair_of_part hkeypair hlater)

end Poses

/-! ## What a line does to one category -/

variable {s : Session}

/-- A question on a line takes its place if its category does not count as asked. -/
theorem Sound.placed_of_question (h : s.Sound) (hdone : s.isDone = false) {now : Instant}
    {news : Bool} {line : Text} {kind : PromptKind}
    (hkind : (classify line).question? = some kind)
    (hclear : (s.readLine now news line).1.handled.get kind.category = false) :
    Placed (.fresh kind line) s.pending (s.readLine now news line).1.pending := by
  have hread := readLine_eq s now news line
  simp only [hkind] at hread
  rw [hread] at hclear ⊢
  rw [register_handled] at hclear
  rcases (h.noticed news line).register_pending kind line now with ⟨hignored, -⟩ | ⟨-, -, hplaced⟩
  · exfalso
    rcases hignored with hset | hstate
    · rw [hclear] at hset
      cases hset
    · rw [noticed_state, ← isDone_iff, hdone] at hstate
      cases hstate
  · rw [← noticed_pending s news line]
    exact hplaced

/-- What is pending of a category was so before, unless the line asks for it. -/
theorem Sound.mem_pending_of_readLine (h : s.Sound) {now : Instant} {news : Bool} {line : Text}
    {c : PromptCategory}
    (hother : AsksAbout c line → (s.readLine now news line).1.handled.get c = true) {p : Prompt}
    (hp : p ∈ (s.readLine now news line).1.pending) (hc : p.category = c) : p ∈ s.pending := by
  rcases h.readLine_pending now (news, line) with ⟨-, hpending⟩ | ⟨q, hraised, hplaced⟩
  · exact hpending ▸ hp
  · rcases (hplaced p).1 hp with rfl | ⟨hold, -⟩
    · -- the question of this line is pending, so its category cannot count as asked
      exfalso
      have hclear := ((h.readLine now (news, line)).admitted p hp).unasked
      have hasks : AsksAbout p.category line := by
        rcases raisedOnLine_cases s now (news, line) with ⟨-, hnone⟩ | ⟨kind, hkind, -, hone⟩
        · simp [hnone] at hraised
        · rw [hone, List.cons.injEq] at hraised
          exact ⟨kind, hkind, by rw [← hraised.1]; rfl⟩
      rw [hc] at hclear hasks
      rw [hother hasks] at hclear
      cases hclear
    · exact hold

/-! ## How far a line has been read -/

/--
Where the question of the category `c` stands when `part` of its line was read, and how often it was
handed out.
-/
inductive Stage (c : PromptCategory) (asked : Bool) (s : Session) (part : Text) : Nat → Prop where
  | early (hdue : ¬ Due c asked part)
      (hflag : s.handled.get c = (asked && !(classify part).isResetSignal))
      (hnone : ∀ p ∈ s.pending, p.category ≠ c) : Stage c asked s part 0
  | waiting {kind : PromptKind} (hdue : Due c asked part) (hflag : s.handled.get c = false)
      (hkind : (classify part).question? = some kind) (hcategory : kind.category = c)
      (hpending : Prompt.fresh kind part ∈ s.pending) : Stage c asked s part 0
  | given (hdue : Due c asked part) (hflag : s.handled.get c = true) : Stage c asked s part 1

/-- The session has read `part` of the line, and handed out the question `times` times. -/
structure Reading (c : PromptCategory) (asked : Bool) (s : Session) (part : Text) (times : Nat) :
    Prop where
  sound : s.Sound
  alive : s.isDone = false
  tail : s.tail = part
  stage : Stage c asked s part times

namespace Reading

variable {c : PromptCategory} {asked : Bool} {line part chunk : Text} {times : Nat} {now : Instant}

/-- A piece of the line makes a notice news only if it is the first one on the line. -/
theorem readLine_flag (h : Reading c asked s part times) (now : Instant)
    (hline : Poses c asked line) (hpart : part ++ chunk <:+: line) :
    (s.readLine now (!s.carriesSignal) (part ++ chunk)).1.handled.get c =
      (s.handled.get c && !(!(classify part).isResetSignal &&
        (classify (part ++ chunk)).isResetSignal)) := by
  rw [readLine_handled, reopens, carriesSignal_eq, h.tail]
  cases hnews : !(classify part).isResetSignal && (classify (part ++ chunk)).isResetSignal with
  | false => simp
  | true =>
    have hsignal := (Bool.and_eq_true_iff.1 hnews).2
    rw [hline.password (hline.asked_of_signal hpart hsignal)]
    simp

theorem stage_readLine (h : Reading c asked s part times) (now : Instant)
    (hline : Poses c asked line) (hpart : part ++ chunk <:+: line) :
    Stage c asked (s.readLine now (!s.carriesSignal) (part ++ chunk)).1 (part ++ chunk) times := by
  have hflag := h.readLine_flag now hline hpart
  have hgrows : part <:+: part ++ chunk := (List.prefix_append part chunk).isInfix
  have hkept : (classify part).isResetSignal = true →
      (classify (part ++ chunk)).isResetSignal = true := hline.signal_mono hgrows hpart
  -- if the category does not count as asked, a question of it is pending from now on
  have hwaiting : Due c asked (part ++ chunk) →
      (s.readLine now (!s.carriesSignal) (part ++ chunk)).1.handled.get c = false →
      Stage c asked (s.readLine now (!s.carriesSignal) (part ++ chunk)).1 (part ++ chunk) 0 := by
    rintro hdue hclear
    obtain ⟨kind, hkind, rfl⟩ := hdue.1
    have hplaced := h.sound.placed_of_question h.alive hkind hclear
    exact .waiting hdue hclear hkind rfl ((hplaced _).2 (.inl rfl))
  cases h.stage with
  | early hdue hbefore hnone =>
    have hafter : (s.readLine now (!s.carriesSignal) (part ++ chunk)).1.handled.get c =
        (asked && !(classify (part ++ chunk)).isResetSignal) := by
      rw [hflag, hbefore]
      cases hsignal : (classify part).isResetSignal with
      | true => simp [hkept hsignal]
      | false => cases asked <;> simp
    by_cases hdue' : Due c asked (part ++ chunk)
    · refine hwaiting hdue' ?_
      rw [hafter]
      cases hasked : asked with
      | false => rfl
      | true => simp [hdue'.2 hasked]
    · refine .early hdue' hafter ?_
      intro p hp hc
      refine hnone p (h.sound.mem_pending_of_readLine ?_ hp hc) hc
      intro hasks
      -- the line asks but is not due, so a notice is missing
      rw [hafter]
      cases hasked : asked with
      | false => exact absurd ⟨hasks, fun h => by cases hasked.symm.trans h⟩ hdue'
      | true =>
        cases hsignal : (classify (part ++ chunk)).isResetSignal with
        | false => rfl
        | true => exact absurd ⟨hasks, fun _ => hsignal⟩ hdue'
  | waiting hdue hbefore hkind hcategory hpending =>
    refine hwaiting (hline.due_mono hgrows hpart hdue) ?_
    rw [hflag, hbefore, Bool.false_and]
  | given hdue hbefore =>
    refine .given (hline.due_mono hgrows hpart hdue) ?_
    rw [hflag, hbefore]
    cases hsignal : (classify part).isResetSignal with
    | true => rfl
    | false =>
      -- without a notice so far, the category did not count as asked, and none comes later
      have hunasked : asked ≠ true := by
        intro hasked
        rw [hdue.2 hasked] at hsignal
        cases hsignal
      cases hlater : (classify (part ++ chunk)).isResetSignal with
      | false => rfl
      | true => exact absurd (hline.asked_of_signal hpart hlater) hunasked

theorem observe (h : Reading c asked s part times) (now : Instant) (hline : Poses c asked line)
    (hsize : Text.byteSize line ≤ tailLimit) (hbreak : Text.LineBreakFree line)
    (hpart : part ++ chunk <:+: line) :
    Reading c asked (s.observe chunk now).1 (part ++ chunk) times := by
  have hchunk : Text.LineBreakFree chunk :=
    hbreak.of_part ((List.suffix_append part chunk).isInfix.trans hpart)
  have hshort : Text.byteSize (s.tail ++ chunk) ≤ tailLimit := by
    rw [h.tail]
    obtain ⟨front, back, rfl⟩ := hpart
    simp only [Text.byteSize_append] at hsize ⊢
    omega
  have hobserve := observe_unbroken h.alive hchunk now
  simp only [h.tail] at hobserve
  have hstage := h.stage_readLine now hline hpart
  refine ⟨h.sound.perform (.observe chunk now), ?_, ?_, ?_⟩
  · rw [observe_isDone]
    exact h.alive
  · rw [observe_tail_of_le h.alive hchunk hshort, h.tail]
  · rw [hobserve]
    -- the stage does not depend on the tail
    cases hstage with
    | early hdue hflag hnone => exact .early hdue hflag hnone
    | waiting hdue hflag hkind hcategory hpending =>
      exact .waiting hdue hflag hkind hcategory hpending
    | given hdue hflag => exact .given hdue hflag

theorem finishResolution (h : Reading c asked s part times) :
    Reading c asked (s.finishResolution now) part times := by
  have hpending := h.sound.finishResolution_pending now
  have hflags := finishResolution_handled s now
  refine ⟨h.sound.finishResolution now, ?_, ?_, ?_⟩
  · rw [finishResolution_isDone]
    exact h.alive
  · rw [finishResolution_tail]
    exact h.tail
  · cases h.stage with
    | early hdue hflag hnone =>
      exact .early hdue (by rw [hflags, hflag]) (by rw [hpending]; exact hnone)
    | waiting hdue hflag hkind hcategory hmem =>
      exact .waiting hdue (by rw [hflags, hflag]) hkind hcategory (by rw [hpending]; exact hmem)
    | given hdue hflag => exact .given hdue (by rw [hflags, hflag])

theorem takeReady (h : Reading c asked s part times) :
    Reading c asked (s.takeReady now).1 part
      (times + (s.takeReady now).2.toList.countP fun p => p.category = c) := by
  rcases takeReady_cases s now with htake | ⟨prompt, readyAt, hstate, -, htake⟩
  · rw [htake]
    exact h
  · refine ⟨h.sound.takeReady now, ?_, ?_, ?_⟩
    · rw [takeReady_isDone]
      exact h.alive
    · rw [takeReady_tail]
      exact h.tail
    have hpending : s.pending = prompt :: (s.takeReady now).1.pending := by
      rw [htake, pending, current_awaiting hstate]
      rfl
    have hmem : prompt ∈ s.pending := by simp [hpending]
    have hclear := (h.sound.admitted prompt hmem).unasked
    have hflags : (s.takeReady now).1.handled = s.handled.set prompt.category true := by rw [htake]
    have hout : (s.takeReady now).2.toList = [prompt.handedOut] := by
      rw [htake]
      rfl
    by_cases hc : prompt.category = c
    · -- the question of the line is handed out, for the first time
      have hcount : ((s.takeReady now).2.toList.countP fun p => p.category = c) = 1 := by
        simp [hout, hc]
      rw [hcount]
      cases h.stage with
      | early hdue hflag hnone => exact absurd hc (hnone prompt hmem)
      | given hdue hflag =>
        rw [hc, hflag] at hclear
        cases hclear
      | waiting hdue hflag hkind hcategory hwaits =>
        exact .given hdue (by rw [hflags, hc, HandledFlags.get_set_self])
    · have hcount : ((s.takeReady now).2.toList.countP fun p => p.category = c) = 0 := by
        simp [hout, hc]
      have hsame : (s.takeReady now).1.handled.get c = s.handled.get c := by
        rw [hflags, HandledFlags.get_set_of_ne s.handled true fun heq => hc heq.symm]
      rw [hcount, Nat.add_zero]
      cases h.stage with
      | early hdue hflag hnone =>
        refine .early hdue (hsame.trans hflag) ?_
        intro p hp
        exact hnone p (by rw [hpending]; exact List.mem_cons_of_mem prompt hp)
      | given hdue hflag => exact .given hdue (hsame.trans hflag)
      | waiting hdue hflag hkind hcategory hwaits =>
        refine .waiting hdue (hsame.trans hflag) hkind hcategory ?_
        rw [hpending] at hwaits
        rcases List.mem_cons.1 hwaits with rfl | hwaits
        · exact absurd hcategory hc
        · exact hwaits

end Reading

/-! ## Runs that read a line -/

def Operation.text : Operation → Text
  | .observe chunk _ => chunk
  | .takeReady _ => []
  | .finishResolution _ => []
  | .markDone => []

def heard (operations : List Operation) : Text :=
  operations.flatMap Operation.text

theorem heard_cons (op : Operation) (r : List Operation) :
    heard (op :: r) = op.text ++ heard r :=
  List.flatMap_cons

theorem heard_append (before later : List Operation) :
    heard (before ++ later) = heard before ++ heard later :=
  List.flatMap_append

theorem heard_eq_nil {operations : List Operation}
    (hquiet : ∀ op ∈ operations, op.isQuiet = true) : heard operations = [] := by
  rw [heard, List.flatMap_eq_nil_iff]
  intro op hop
  have h := hquiet op hop
  cases op with
  | observe chunk now => cases h
  | takeReady now => rfl
  | finishResolution now => rfl
  | markDone => rfl

variable {c : PromptCategory} {asked : Bool} {line : Text}

theorem Reading.perform {part : Text} {times : Nat} (h : Reading c asked s part times)
    (hline : Poses c asked line) (hsize : Text.byteSize line ≤ tailLimit)
    (hbreak : Text.LineBreakFree line) {op : Operation} (hop : op ≠ .markDone)
    (hpart : part ++ op.text <:+: line) :
    Reading c asked (s.perform op) (part ++ op.text)
      (times + (s.handedOut? op).toList.countP fun p => p.category = c) := by
  cases op with
  | observe chunk now => exact h.observe now hline hsize hbreak hpart
  | takeReady now =>
    rw [Operation.text, List.append_nil]
    exact h.takeReady
  | finishResolution now =>
    rw [Operation.text, List.append_nil]
    exact h.finishResolution
  | markDone => exact absurd rfl hop

theorem Reading.after {part : Text} {times : Nat} (h : Reading c asked s part times)
    (hline : Poses c asked line) (hsize : Text.byteSize line ≤ tailLimit)
    (hbreak : Text.LineBreakFree line) {operations : List Operation}
    (hdone : .markDone ∉ operations) (hpart : part ++ heard operations <:+: line) :
    Reading c asked (s.after operations) (part ++ heard operations)
      (times + (s.handOuts operations).countP fun p => p.category = c) := by
  induction operations generalizing s part times with
  | nil =>
    rw [heard, List.flatMap_nil, List.append_nil]
    exact h
  | cons op r ih =>
    have hsplit : part ++ heard (op :: r) = part ++ op.text ++ heard r := by
      rw [heard_cons, List.append_assoc]
    rw [hsplit] at hpart ⊢
    rw [List.mem_cons, not_or] at hdone
    have hop := h.perform hline hsize hbreak (Ne.symm hdone.1)
      ((List.prefix_append _ _).isInfix.trans hpart)
    rw [after_cons, handOuts, List.countP_append, ← Nat.add_assoc]
    exact ih hop hdone.2 hpart

/-- A session with nothing to do, at the beginning of a line, has not read anything of it. -/
theorem reading_start (h : s.Sound) (hidle : s.state = .idle) (htail : s.tail = []) :
    Reading c (s.handled.get c) s [] 0 := by
  refine ⟨h, isDone_of_idle hidle, htail, ?_⟩
  have hplain : classify [] = .plain := classify_of_allBlank rfl
  refine .early ?_ ?_ ?_
  · rintro ⟨⟨kind, hkind, -⟩, -⟩
    simp [hplain, LineClass.question?] at hkind
  · simp [hplain, LineClass.isResetSignal]
  · intro p hp
    rw [h.pending_of_idle hidle] at hp
    exact absurd hp List.not_mem_nil

theorem poses_of_class {kind : PromptKind} (hglyph : LineClass.successGlyph ∉ line)
    (hclass : (classify line = .prompt kind ∧ s.handled.get kind.category = false) ∨
      (classify line = .passwordRejected (some kind) ∧ s.handled.password = true)) :
    Poses kind.category (s.handled.get kind.category) line := by
  rcases hclass with ⟨hprompt, hclear⟩ | ⟨hrejected, hset⟩
  · obtain ⟨hkind, hsignal⟩ := LineClass.eq_prompt_iff.1 hprompt
    refine ⟨hglyph, ⟨kind, hkind, rfl⟩, hsignal.trans hclear.symm, ?_⟩
    intro hasked
    rw [hclear] at hasked
    cases hasked
  · obtain ⟨hkind, hsignal⟩ := LineClass.eq_passwordRejected_some_iff.1 hrejected
    have hpassword := LineClass.category_of_passwordRejected hrejected
    refine ⟨hglyph, ⟨kind, hkind, rfl⟩, ?_, fun _ => hpassword⟩
    rw [hsignal, hpassword]
    exact hset.symm

/-- A question that is due and was not handed out is pending, with the latest text of its line. -/
theorem Reading.pending_of_due {part : Text} {asked : Bool} (h : Reading c asked s part 0)
    (hdue : Due c asked part) :
    ∃ kind, (classify part).question? = some kind ∧ kind.category = c ∧
      Prompt.fresh kind part ∈ s.pending := by
  cases h.stage with
  | early hnot hflag hnone => exact absurd hdue hnot
  | waiting hdue' hflag hkind hcategory hpending => exact ⟨_, hkind, hcategory, hpending⟩

/-- If nothing is left pending, a question that is due was handed out. -/
theorem Reading.times_eq_one {part : Text} {asked : Bool} {times : Nat}
    (h : Reading c asked s part times) (hdue : Due c asked part) (hempty : s.pending = []) :
    times = 1 := by
  cases h.stage with
  | early hnot hflag hnone => exact absurd hdue hnot
  | waiting hdue' hflag hkind hcategory hpending =>
    rw [hempty] at hpending
    exact absurd hpending List.not_mem_nil
  | given hdue' hflag => rfl

/-- By the time a session has been drained, it has handed out the question of the line it read. -/
theorem Reading.countP_drain {asked : Bool} {times : Nat} (h : Reading c asked s line times)
    (hline : Poses c asked line) (hsize : Text.byteSize line ≤ tailLimit)
    (hbreak : Text.LineBreakFree line) {drain : List Operation} (hdrain : s.Drains drain) :
    (times + (s.handOuts drain).countP fun p => p.category = c) = 1 := by
  have hend : .markDone ∉ drain := fun hmem => by cases hdrain.isQuiet _ hmem
  have hrest : line ++ heard drain = line := by
    rw [heard_eq_nil hdrain.isQuiet, List.append_nil]
  have hlast := h.after hline hsize hbreak hend (by simp only [hrest, List.infix_refl])
  rw [hrest] at hlast
  exact hlast.times_eq_one hline.due (hdrain.pending_after h.sound h.alive).2

/-- A question that is handed out only after the last piece of its line is that of the line. -/
theorem Reading.eq_of_last_piece {part chunk : Text} {asked : Bool}
    (h : Reading c asked s part 0) (hline : Poses c asked line)
    (hsize : Text.byteSize line ≤ tailLimit) (hbreak : Text.LineBreakFree line)
    (hwhole : part ++ chunk = line) {kind : PromptKind}
    (hkind : (classify line).question? = some kind) {now : Instant} {later : List Operation}
    (hquiet : ∀ op ∈ later, op.isQuiet = true) {p : Prompt}
    (hp : p ∈ (s.observe chunk now).1.handOuts later) (hc : p.category = c) :
    p = (Prompt.fresh kind line).handedOut := by
  have hpart : part ++ chunk <:+: line := by simp only [hwhole, List.infix_refl]
  have hlast := h.observe now hline hsize hbreak hpart
  rw [hwhole] at hlast
  -- the last piece leaves the question of the whole line pending
  obtain ⟨kind', hkind', hcategory, hpending⟩ := hlast.pending_of_due hline.due
  obtain rfl : kind = kind' := Option.some.inj (hkind.symm.trans hkind')
  -- whatever is handed out later was pending then
  have hmem := List.mem_append_left
    (((s.observe chunk now).1.after later).pending.map Prompt.handedOut) hp
  rw [← hlast.sound.pending_eq_handOuts_append hquiet] at hmem
  obtain ⟨q, hq, rfl⟩ := List.mem_map.1 hmem
  rw [hlast.sound.eq_of_category hq hpending (hc.trans hcategory.symm)]

/--
A line is read in pieces, while questions are asked for and dealt with at any time, until the
session has been drained.  In all, one question of the category of the line is handed out; it is the
question of the whole line, unless it was handed out before the last piece arrived.
-/
theorem handOuts_fragmented (hs : s.Reachable) (hidle : s.state = .idle) (htail : s.tail = [])
    {kind : PromptKind} (hsize : Text.byteSize line ≤ 4096) (hbreak : Text.LineBreakFree line)
    (hglyph : '✔' ∉ line)
    (hclass : (classify line = .prompt kind ∧ s.handled.get kind.category = false) ∨
      (classify line = .passwordRejected (some kind) ∧ s.handled.password = true))
    {operations drain : List Operation} (hdone : .markDone ∉ operations)
    (hheard : heard operations = line) (hdrain : (s.after operations).Drains drain) :
    ∃ p, (s.handOuts (operations ++ drain)).filter (fun q => q.category = kind.category) = [p] ∧
      ∀ early chunk now late, operations = early ++ .observe chunk now :: late →
        (∀ op ∈ late, op.isQuiet = true) →
        (∀ q ∈ s.handOuts early, q.category ≠ kind.category) →
        p.kind = kind ∧ p.text = Text.trim line := by
  have hposes : Poses kind.category (s.handled.get kind.category) line :=
    poses_of_class hglyph hclass
  have hstart : Reading kind.category (s.handled.get kind.category) s [] 0 :=
    reading_start hs.sound hidle htail
  have hkind : (classify line).question? = some kind := by
    rcases hclass with ⟨hprompt, -⟩ | ⟨hrejected, -⟩
    · rw [hprompt]
      rfl
    · rw [hrejected]
      rfl
  have hread := hstart.after hposes hsize hbreak hdone
    (by simp only [hheard, List.nil_append, List.infix_refl])
  rw [hheard, List.nil_append, Nat.zero_add] at hread
  have hcount := hread.countP_drain hposes hsize hbreak hdrain
  rw [← List.countP_append, ← handOuts_append, List.countP_eq_length_filter] at hcount
  obtain ⟨p, hp⟩ := List.length_eq_one_iff.1 hcount
  refine ⟨p, hp, ?_⟩
  rintro early chunk now late rfl hlate hnone
  have hmem : p ∈ (s.handOuts (early ++ .observe chunk now :: late ++ drain)).filter
      fun q => q.category = kind.category := by
    rw [hp]
    exact List.mem_singleton_self p
  obtain ⟨hmem, hcategory⟩ := List.mem_filter.1 hmem
  have hcategory : p.category = kind.category := of_decide_eq_true hcategory
  -- nothing of the category came before the last piece, so `p` comes after it
  have hwhole : heard early ++ chunk = line := by
    rw [← hheard, heard_append, heard_cons, heard_eq_nil hlate, List.append_nil]
    rfl
  have hpart : [] ++ heard early <:+: line := by
    rw [← hwhole]
    exact (List.prefix_append _ _).isInfix
  have hearly := hstart.after hposes hsize hbreak
    (fun hmem => hdone (List.mem_append_left _ hmem)) hpart
  have hzero : ((s.handOuts early).countP fun q => q.category = kind.category) = 0 := by
    simpa [List.countP_eq_zero] using hnone
  rw [hzero, List.nil_append] at hearly
  have hlater : p ∈ ((s.after early).observe chunk now).1.handOuts (late ++ drain) := by
    rw [List.append_assoc, handOuts_append] at hmem
    rcases List.mem_append.1 hmem with hmem | hmem
    · exact absurd hcategory (hnone p hmem)
    · exact hmem
  have hp' := hearly.eq_of_last_piece hposes hsize hbreak hwhole hkind
    (List.forall_mem_append.2 ⟨hlate, hdrain.isQuiet⟩) hlater hcategory
  rw [hp']
  exact ⟨rfl, rfl⟩

/-- A rejection arrives in three pieces and asks again with the last one. -/
theorem handOuts_fragmented_rejection :
    let s := (new ⟨9⟩).after [.observe "password?\n".toList ⟨0⟩, .takeReady ⟨9⟩,
      .finishResolution ⟨9⟩]
    let line := "Wrong password?".toList
    let early : List Operation := [.observe "Wrong pass".toList ⟨20⟩, .observe "word".toList ⟨21⟩,
      .takeReady ⟨22⟩]
    let drain : List Operation := [.takeReady ⟨39⟩, .finishResolution ⟨40⟩]
    classify line = .passwordRejected (some (.password .decrypt)) ∧ s.handled.password = true ∧
      ∃ p, (s.handOuts (early ++ [.observe ['?'] ⟨30⟩] ++ drain)).filter
          (fun q => q.category = .password) = [p] ∧
        p.kind = .password .decrypt ∧ p.text = line := by
  intro s line early drain
  have hclass : classify line = .passwordRejected (some (.password .decrypt)) := by decide +kernel
  have hflag : s.handled.password = true := by decide +kernel
  have hdrain : (s.after (early ++ [.observe ['?'] ⟨30⟩])).Drains drain :=
    ⟨⟨0⟩, [(⟨39⟩, ⟨40⟩)], by decide +kernel, by decide +kernel, by decide +kernel⟩
  have hheard : heard (early ++ [.observe ['?'] ⟨30⟩]) = line := by decide +kernel
  obtain ⟨p, hp, hlast⟩ := handOuts_fragmented ⟨_, _, rfl⟩ (by decide +kernel) (by decide +kernel)
    (by decide +kernel) (by decide +kernel) (by decide +kernel) (.inr ⟨hclass, hflag⟩)
    (by decide +kernel) hheard hdrain
  have htrim : Text.trim line = line := by decide +kernel
  rw [htrim] at hlast
  exact ⟨hclass, hflag, p, hp, hlast early _ _ [] rfl (by simp) (by decide +kernel)⟩

end Session
end ContractAssist
