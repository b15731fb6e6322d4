import ContractAssist.Proofs.Prompt.Drain
import ContractAssist.Proofs.Prompt.Growth

/-!
# Served — which questions behind an unterminated line are handed out

A session with nothing to do serves a chunk if it reports the question of the chunk, and hands it
out as soon as its text has settled.  But a chunk is not read by itself: it is joined to the line
that is still unterminated, and what counts is the class of the joined line.

* `serves_iff`: a chunk is served iff the joined line asks, and its category does not count as asked
  once the line was read;
* `serves_after_answered`: what this means for a chunk that asks, behind the line of a question that
  was answered.  A question about a keypair swallows the questions about a password behind it, and a
  rejection swallows the questions about a keypair; the other way round, they are served unless the
  two together read as something else.
-/

namespace ContractAssist
namespace Session

open LineClass

variable {s : Session} {c : PromptCategory} {chunk : Text} {now later : Instant}

/-- The chunk is reported to ask, and later on a question of the category is handed out. -/
def Serves (s : Session) (chunk : Text) (c : PromptCategory) (now later : Instant) : Prop :=
  (s.observe chunk now).2.prompt = true ∧
    ∃ p, ((s.observe chunk now).1.takeReady later).2 = some p ∧ p.category = c

instance decidableServes (s : Session) (chunk : Text) (c : PromptCategory) (now later : Instant) :
    Decidable (s.Serves chunk c now later) :=
  decidable_of_iff
    ((s.observe chunk now).2.prompt = true ∧
      ((s.observe chunk now).1.takeReady later).2.any (fun p => p.category = c) = true)
    (by simp [Serves, Option.any_eq_true])

/-! ## One chunk -/

/-- With nothing to do, a line asks in vain, or its question is taken up at once. -/
theorem readLine_idle_cases (hidle : s.state = .idle) (now : Instant) (news : Bool) (line : Text) :
    ((s.readLine now news line).2 = false ∧
      ∀ c, AsksAbout c line → (s.readLine now news line).1.handled.get c = true) ∨
    ∃ kind, (classify line).question? = some kind ∧ (s.readLine now news line).2 = true ∧
      (s.readLine now news line).1.handled.get kind.category = false ∧
      (s.readLine now news line).1.state =
        .awaiting (.fresh kind line) (now.afterOrSame s.debounce) := by
  have hread := readLine_eq s now news line
  cases hkind : (classify line).question? with
  | none =>
    left
    simp only [hkind] at hread
    exact ⟨by rw [hread], by simp [AsksAbout, hkind]⟩
  | some kind =>
    simp only [hkind] at hread
    have hstate : (s.noticed news line).state = .idle := (noticed_state s news line).trans hidle
    have hdebounce : (s.noticed news line).debounce = s.debounce :=
      noticed_induction (P := fun s' => s'.debounce = s.debounce) rfl rfl news line
    -- a notice resets flags before the question is registered, so the flag behind it decides
    cases hflag : (s.noticed news line).handled.get kind.category with
    | true =>
      left
      have hignored : s.readLine now news line = (s.noticed news line, false) := by
        rw [hread, register, if_pos hflag]
      refine ⟨by rw [hignored], ?_⟩
      rintro c ⟨kind', hkind', rfl⟩
      obtain rfl : kind = kind' := Option.some.inj (hkind.symm.trans hkind')
      rw [hignored]
      exact hflag
    | false =>
      right
      refine ⟨kind, rfl, ?_, ?_, ?_⟩
      · simp [hread, register, hflag, hstate]
      · rw [hread, register_handled]
        exact hflag
      · simp [hread, register, hflag, hstate, hdebounce]

/-- A chunk is served iff the line that it goes on asks, and may ask. -/
theorem serves_iff (hidle : s.state = .idle) (hchunk : Text.LineBreakFree chunk)
    (hsettled : later.reached (now.afterOrSame s.debounce) = true) :
    s.Serves chunk c now later ↔
      AsksAbout c (s.tail ++ chunk) ∧
        (s.readLine now (!s.carriesSignal) (s.tail ++ chunk)).1.handled.get c = false := by
  have hobserve := observe_unbroken (isDone_of_idle hidle) hchunk now
  rcases readLine_idle_cases hidle now (!s.carriesSignal) (s.tail ++ chunk) with
    ⟨hasked, hvain⟩ | ⟨kind, hkind, hasked, hclear, hstate⟩
  · -- nothing is reported, and whatever the line asks counts as asked
    constructor
    · rintro ⟨hprompt, -⟩
      rw [hobserve, hasked] at hprompt
      cases hprompt
    · rintro ⟨hasks, hclear⟩
      rw [hvain c hasks] at hclear
      cases hclear
  · have htake : ((s.observe chunk now).1.takeReady later).2 =
        some (Prompt.fresh kind (s.tail ++ chunk)).handedOut := by
      simp [takeReady, hobserve, hstate, hsettled, Prompt.handedOut]
    constructor
    · rintro ⟨-, p, hp, rfl⟩
      obtain rfl := Option.some.inj (htake.symm.trans hp)
      exact ⟨⟨kind, hkind, rfl⟩, hclear⟩
    · rintro ⟨⟨kind', hkind', rfl⟩, -⟩
      obtain rfl : kind = kind' := Option.some.inj (hkind.symm.trans hkind')
      exact ⟨by rw [hobserve, hasked], _, htake, rfl⟩

/-- A category that does not count as asked need only be asked for. -/
theorem serves_iff_of_clear (hidle : s.state = .idle) (hchunk : Text.LineBreakFree chunk)
    (hsettled : later.reached (now.afterOrSame s.debounce) = true)
    (hclear : s.handled.get c = false) :
    s.Serves chunk c now later ↔ AsksAbout c (s.tail ++ chunk) := by
  rw [serves_iff hidle hchunk hsettled]
  refine and_iff_left ?_
  rw [readLine_handled]
  split
  · exact HandledFlags.get_set_false_of_clear .password hclear
  · exact hclear

/-! ## Behind the question that was handed out last -/

/-- Whatever a run hands out is asked by its text. -/
theorem Sound.asks_of_handOuts (h : s.Sound) {operations : List Operation} {p : Prompt}
    (hp : p ∈ s.handOuts operations) : (classify p.text).question? = some p.kind := by
  induction operations generalizing s with
  | nil => exact absurd hp List.not_mem_nil
  | cons op r ih =>
    rcases List.mem_append.1 hp with hp | hp
    · obtain ⟨now, rfl, htake⟩ := exists_takeReady_of_handedOut (Option.mem_toList.1 hp)
      rcases takeReady_pending s now with hnone | ⟨q, hpending, hq⟩
      · simp [hnone] at htake
      · obtain rfl := Option.some.inj (hq.symm.trans htake)
        have hadmitted := h.admitted q (by simp [hpending])
        exact question?_eq_some_iff.2 hadmitted.asks
    · exact ih (h.perform op) hp

/--
After the run there is nothing to do, and the unterminated line is that of the question handed out
last.
-/
structure LeavesOpen (debounce : Duration) (operations : List Operation) (p : Prompt) : Prop where
  last : ((new debounce).handOuts operations).getLast? = some p
  idle : ((new debounce).after operations).state = .idle
  line : Text.trim ((new debounce).after operations).tail = p.text

namespace LeavesOpen

variable {debounce : Duration} {operations : List Operation} {p : Prompt}

/-- The tail has the class of the question, and so asks it. -/
theorem classify_tail (h : LeavesOpen debounce operations p) :
    classify ((new debounce).after operations).tail = classify p.text := by
  rw [← classify_trim, h.line]

theorem asksAbout_tail (h : LeavesOpen debounce operations p) :
    AsksAbout p.category ((new debounce).after operations).tail := by
  have hmem : p ∈ (new debounce).handOuts operations := List.mem_of_getLast? h.last
  exact ⟨p.kind, h.classify_tail ▸ (sound_new debounce).asks_of_handOuts hmem, rfl⟩

theorem asksForKeypair_line (h : LeavesOpen debounce operations p)
    (hkeypair : p.category = .keypair) (chunk : Text) :
    let line := ((new debounce).after operations).tail ++ chunk
    asksForKeypair line (Text.folded line) = true :=
  asksForKeypair_of_part (asksAbout_keypair_iff.1 (hkeypair ▸ h.asksAbout_tail)).2.2
    (List.prefix_append _ _).isInfix

theorem startsWithGlyph_line (h : LeavesOpen debounce operations p)
    (hpassword : p.category = .password) (chunk : Text) :
    startsWithGlyph (((new debounce).after operations).tail ++ chunk) = false := by
  have hasks := h.asksAbout_tail
  rw [hpassword] at hasks
  -- the tail asks, so something visible stands on it
  have hvisible : Text.allBlank ((new debounce).after operations).tail = false := by
    cases hblank : Text.allBlank ((new debounce).after operations).tail with
    | false => rfl
    | true =>
      obtain ⟨kind, hkind, -⟩ := hasks
      rw [classify_of_allBlank hblank] at hkind
      cases hkind
  rw [startsWithGlyph_append chunk hvisible]
  exact (shown_of_asksForPassword (asksAbout_password_iff.1 hasks).2.1).1

/-- A rejection that asks again is still one when its line goes on. -/
theorem rejectsPassword_line (h : LeavesOpen debounce operations p)
    (hrejected : classify p.text = .passwordRejected (some p.kind)) (chunk : Text) :
    let line := ((new debounce).after operations).tail ++ chunk
    rejectsPassword line (Text.folded line) = true :=
  rejectsPassword_append chunk
    (rejectsPassword_of_passwordRejected (h.classify_tail.trans hrejected))

end LeavesOpen

/--
A chunk that asks by itself goes on the line of the question that was answered last.  A question
about a keypair is served iff the whole line is no notice.  A question about a password is served
iff the whole line neither is the notice of an accepted password nor shows a secret, and a question
about a keypair does not come before it.  So behind a question about a keypair none about a
password is served unless the line rejects a password, and behind a rejection none about a keypair
is.
-/
theorem serves_after_answered {debounce : Duration} {operations : List Operation} {p : Prompt}
    (h : LeavesOpen debounce operations p) {kind : PromptKind} (hchunk : Text.LineBreakFree chunk)
    (hclass : classify chunk = .prompt kind)
    (hclear : ((new debounce).after operations).handled.get kind.category = false)
    (hsettled : later.reached (now.afterOrSame ((new debounce).after operations).debounce) = true) :
    let s := (new debounce).after operations
    let line := s.tail ++ chunk
    (kind.category = .keypair →
      (s.Serves chunk .keypair now later ↔ (classify line).isResetSignal = false)) ∧
    (kind.category = .password →
      (s.Serves chunk .password now later ↔
        acceptsPassword line (Text.folded line) = false ∧
          Text.contains maskedMarker line = false ∧
          (rejectsPassword line (Text.folded line) = true ∨
            asksForKeypair line (Text.folded line) = false))) ∧
    (p.category = .keypair → rejectsPassword line (Text.folded line) = false →
      ¬ s.Serves chunk .password now later) ∧
    (classify p.text = .passwordRejected (some p.kind) → ¬ s.Serves chunk .keypair now later) := by
  intro s line
  have hasks : AsksAbout kind.category chunk := ⟨kind, (eq_prompt_iff.1 hclass).1, rfl⟩
  have hpart : chunk <:+: line := (List.suffix_append s.tail chunk).isInfix
  have hserves : s.Serves chunk kind.category now later ↔ AsksAbout kind.category line :=
    serves_iff_of_clear h.idle hchunk hsettled hclear
  refine ⟨?_, ?_, ?_, ?_⟩
  · intro hcategory
    rw [hcategory] at hserves hasks
    exact hserves.trans (asksAbout_keypair_of_part_iff hasks hpart)
  · intro hcategory
    rw [hcategory] at hserves hasks
    rw [hserves, asksAbout_password_of_part_iff hasks hpart]
    constructor
    · rintro ⟨haccepts, -, hmasked, hfirst⟩
      exact ⟨haccepts, hmasked, hfirst⟩
    · rintro ⟨haccepts, hmasked, hfirst⟩
      refine ⟨haccepts, ?_, hmasked, hfirst⟩
      -- only a question about a keypair may begin with the glyph, and it would come first
      rcases hfirst with hrejects | hfirst
      · exact startsWithGlyph_of_rejectsPassword hrejects
      · apply h.startsWithGlyph_line
        cases hp : p.category with
        | password => rfl
        | keypair =>
          rw [h.asksForKeypair_line hp chunk] at hfirst
          cases hfirst
  · intro hkeypair hquiet hserved
    have hline := ((serves_iff h.idle hchunk hsettled).1 hserved).1
    rcases (asksAbout_password_iff.1 hline).2.2 with hrejects | hfirst
    · cases hquiet.symm.trans hrejects
    · rw [h.asksForKeypair_line hkeypair chunk] at hfirst
      cases hfirst
  · intro hrejected hserved
    have hline := ((serves_iff h.idle hchunk hsettled).1 hserved).1
    have hquiet := (asksAbout_keypair_iff.1 hline).2.1
    rw [h.rejectsPassword_line hrejected chunk] at hquiet
    cases hquiet

/-- Behind a question about a password, one about a keypair is served. -/
theorem serves_keypair_after_password :
    let operations : List Operation :=
      [.observe "Enter password: ".toList ⟨0⟩, .takeReady ⟨9⟩, .finishResolution ⟨10⟩]
    let chunk := "Keypair not found (Y/n)".toList
    LeavesOpen ⟨9⟩ operations ⟨"Enter password:".toList, .password .decrypt, true⟩ ∧
      classify chunk = .prompt .keypair ∧
      ((new ⟨9⟩).after operations).Serves chunk .keypair ⟨20⟩ ⟨29⟩ := by
  intro operations chunk
  have hafter : (new ⟨9⟩).after operations =
      ⟨.idle, ⟨false, true⟩, [], "Enter password: ".toList, ⟨9⟩⟩ := by
    decide +kernel
  have hopen : LeavesOpen ⟨9⟩ operations ⟨"Enter password:".toList, .password .decrypt, true⟩ :=
    ⟨by decide +kernel, by rw [hafter], by rw [hafter]; decide +kernel⟩
  have hclass : classify chunk = .prompt .keypair := by decide +kernel
  have hsettled : (⟨29⟩ : Instant).reached
      ((⟨20⟩ : Instant).afterOrSame ((new ⟨9⟩).after operations).debounce) = true := by
    rw [hafter]
    decide
  have hserves := serves_after_answered hopen (by decide +kernel) hclass (by rw [hafter]; rfl)
    hsettled
  refine ⟨hopen, hclass, (hserves.1 rfl).2 ?_⟩
  rw [hafter]
  decide +kernel

/-- But a question about a password that arrives behind one about a keypair is lost. -/
theorem password_lost_after_keypair :
    ¬ ∀ (debounce : Duration) (operations : List Operation) (p : Prompt) (chunk : Text)
      (kind : PromptKind) (now later : Instant),
      let s := (new debounce).after operations
      LeavesOpen debounce operations p → Text.LineBreakFree chunk →
      classify chunk = .prompt kind → s.handled.get kind.category = false →
      later.reached (now.afterOrSame s.debounce) = true →
      s.Serves chunk kind.category now later := by
  intro h
  let operations : List Operation :=
    [.observe "? Keypair not found. Create one? (Y/n) ".toList ⟨0⟩, .takeReady ⟨0⟩,
      .finishResolution ⟨10⟩]
  let chunk := "? Enter password to encrypt keystore:".toList
  have hafter : (new ⟨0⟩).after operations =
      ⟨.idle, ⟨true, false⟩, [], "? Keypair not found. Create one? (Y/n) ".toList, ⟨0⟩⟩ := by
    decide +kernel
  have hopen : LeavesOpen ⟨0⟩ operations
      ⟨"? Keypair not found. Create one? (Y/n)".toList, .keypair, true⟩ :=
    ⟨by decide +kernel, by rw [hafter], by rw [hafter]; decide +kernel⟩
  have hclass : classify chunk = .prompt (.password .newKeystore) := by decide +kernel
  have hserves := h ⟨0⟩ operations _ chunk _ ⟨20⟩ ⟨20⟩ hopen (by decide +kernel) hclass
  rw [hafter] at hserves
  exact absurd (hserves rfl (by decide)) (by decide +kernel)

end Session
end ContractAssist
