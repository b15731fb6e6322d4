import ContractAssist.Job.Deploy
import ContractAssist.Proofs.Prompt.Layer
import ContractAssist.Proofs.Text.Basic

/-!
# Reply — how many lines an answer is

A child reads its answers line by line, so a reply should be one line.  A reply is what the source
supplied with a line feed behind it, and of what was supplied only the length is ever looked at:

1. `resolve_reply_iff` says which replies there are, and `isOneLine_append_iff` when they are one
   line;
2. what is typed as a secret has no break in it (`Dialog.lineBreakFree_of_secret`), but a variable
   is taken as it is (`Job.password_of_presets`);
3. `reply_isOneLine_iff` puts these together; `two_lines_replied` is a variable with a break in it.
-/

namespace ContractAssist

/-! ## One line -/

namespace Text

/-- One line: a line feed ends the text, and no other break is in it. -/
def IsOneLine (t : Text) : Prop :=
  ∃ body, t = body ++ "\n" ∧ LineBreakFree body

theorem isOneLine_append_iff {body : Text} : IsOneLine (body ++ "\n") ↔ LineBreakFree body := by
  constructor
  · rintro ⟨body', heq, hfree⟩
    rw [List.append_cancel_right heq]
    exact hfree
  · intro hfree
    exact ⟨body, rfl, hfree⟩

end Text

/-! ## Secrets that are typed -/

theorem Draft.isLineBreak_of_not_isControl {c : Char} (h : Draft.isControl c = false) :
    Text.isLineBreak c = false := by
  cases hbreak : Text.isLineBreak c with
  | false => rfl
  | true =>
    have hcases : c = '\n' ∨ c = '\r' := by simpa [Text.isLineBreak] using hbreak
    rcases hcases with rfl | rfl
    · exact absurd h (by decide)
    · exact absurd h (by decide)

/-- Keys take characters away from a line, or add one that is no control character. -/
theorem Draft.lineBreakFree_type {d : Draft} (h : Text.LineBreakFree d.entered) (c : Char) :
    Text.LineBreakFree (d.type c).entered := by
  have hword : (d.entered.dropWhile isBlank).dropWhile (fun c => !isBlank c) <:+: d.entered :=
    ((List.dropWhile_suffix _).trans (List.dropWhile_suffix _)).isInfix
  unfold Draft.type
  -- a key that erases a character, the line or a word; or one that stands for itself
  split
  · exact h.of_part (List.tail_suffix d.entered).isInfix
  · split
    · exact Text.lineBreakFree_nil
    · split
      · exact h.of_part hword
      · cases hcontrol : isControl c with
        | true => simpa using h
        | false =>
          intro e he
          rcases List.mem_cons.1 he with rfl | he
          · exact isLineBreak_of_not_isControl hcontrol
          · exact h e he

theorem Entry.lineBreakFree_of_readFrom {d : Draft} {place : KeyPlace}
    {typed secret left echo : Text} (hd : Text.LineBreakFree d.entered)
    (h : readFrom d place typed = (.accepted secret left, echo)) : Text.LineBreakFree secret := by
  -- the line so far has no break in it, whatever key comes next and wherever its parts are read
  induction typed generalizing d place with
  | nil => cases place <;> cases h
  | cons c r ih =>
    cases place with
    | between =>
      simp only [readFrom] at h
      split at h
      · cases h
        intro e he
        exact hd e (List.mem_reverse.1 he)
      · split at h
        · cases h
        · split at h
          · exact ih hd h
          · exact ih (Draft.lineBreakFree_type hd c) h
    | escape => exact ih hd h
    | control => exact ih hd h
    | single => exact ih hd h

theorem TypingTerminal.lineBreakFree_of_askSecret {t : TypingTerminal} {label value left : Text}
    (h : (t.askSecret label).1 = .accepted value left) : Text.LineBreakFree value := by
  unfold askSecret at h
  simp only at h
  rcases hread : Entry.read (t.showLabel label).typed with ⟨entry, echo⟩
  rw [hread] at h
  cases entry with
  | accepted secret rest =>
    cases h
    exact Entry.lineBreakFree_of_readFrom Text.lineBreakFree_nil hread
  | aborted rest => cases h
  | unfinished => cases h

/-- No secret that a user types has a line break in it. -/
theorem Dialog.lineBreakFree_of_secret {p : Palette} {c : Console} {request : SecretRequest}
    {value left : Text} (h : (secret p c request).1 = .accepted value left) :
    Text.LineBreakFree value := by
  unfold secret at h
  split at h
  · cases h
  · split at h
    · cases h
    · exact TypingTerminal.lineBreakFree_of_askSecret h

/-- Whoever attends to a deployment gives a secret with a break only if it was fixed beforehand. -/
theorem Dialog.lineBreakFree_of_attendant {p : Palette} {preset : PresetAnswers} {c : Console}
    {q : Question} {value : Text}
    (h : ((attendant p preset).answer c q).answer = some (.secret value)) :
    preset.password = some value ∨ Text.LineBreakFree value := by
  cases q with
  | confirm question =>
    -- a choice is never a secret
    cases hyes : preset.createKeypair with
    | some yes => simp [attendant, PresetAnswers.answer?, hyes, Turn.immediate] at h
    | none =>
      simp only [attendant, PresetAnswers.answer?, hyes, Option.map_none, ask, Turn.immediate] at h
      cases hanswer : (confirm p c question).1 <;> simp [hanswer] at h
  | secret request =>
    cases hpassword : preset.password with
    | some password =>
      left
      simpa [attendant, PresetAnswers.answer?, hpassword, Turn.immediate] using h
    | none =>
      right
      simp only [attendant, PresetAnswers.answer?, hpassword, Option.map_none, ask] at h
      rcases hsecret : secret p c request with ⟨entry, c'⟩
      rw [hsecret] at h
      cases entry with
      | accepted typed left =>
        obtain rfl : typed = value := by simpa [Turn.immediate] using h
        exact lineBreakFree_of_secret (congrArg Prod.fst hsecret)
      | aborted left => simp [Turn.immediate] at h
      | unfinished => simp at h

/-! ## What is replied -/

def Response.word (yes : Bool) : Text :=
  if yes then "Y" else "n"

theorem Response.lineBreakFree_word (yes : Bool) : Text.LineBreakFree (word yes) := by
  cases yes <;> decide

theorem Response.ofSecret_eq_reply_iff {answer : Option Text} {line : Text} :
    ofSecret answer = .reply line ↔
      ∃ body, answer = some body ∧ body ≠ [] ∧ line = body ++ "\n" := by
  rcases answer with _ | _ | ⟨c, r⟩
  · simp [ofSecret]
  · simp [ofSecret]
  · simp [ofSecret, eq_comm]

namespace AnswerSource

open Resolution

variable {σ : Type}

/-- In an exchange about the prompt, the source comes to supply this text to the child. -/
inductive Supplies (source : AnswerSource σ) (minLength : Nat) (prompt : Prompt) (s : σ) :
    Text → Prop where
  -- the word for the answer of the source
  | choice {yes : Bool} (hkind : prompt.kind = .keypair)
      (hanswer : (source.confirm s (keypairQuestion prompt.text)).1 = some yes) :
      source.Supplies minLength prompt s (Response.word yes)
  -- the first of five secrets that is not refused
  | secret {context : PasswordContext} {i : Nat} {body : Text}
      (hkind : prompt.kind = .password context) (hi : i < 5)
      (hrefused : ∀ j < i, Secret.Refused context minLength
        (source.answerTo (passwordRequest prompt.text context minLength) s j))
      (hdecided : ¬ Secret.Refused context minLength (some body))
      (hanswer : source.answerTo (passwordRequest prompt.text context minLength) s i = some body)
      (hbody : body ≠ []) : source.Supplies minLength prompt s body

variable {source : AnswerSource σ} {minLength : Nat} {prompt : Prompt} {s : σ} {line body : Text}

theorem resolve_keypair (source : AnswerSource σ) (minLength : Nat) (promptText : Text)
    (handled : Bool) (s : σ) :
    source.resolve minLength ⟨promptText, .keypair, handled⟩ s =
      ((source.confirm s (keypairQuestion promptText)).1.elim .cancelled fun yes =>
          .reply (Response.word yes ++ "\n"),
        (source.confirm s (keypairQuestion promptText)).2) := by
  rw [resolve_eq]
  simp only [start, fuel, finish, question?, ask]
  rcases (source.confirm s (keypairQuestion promptText)).1 with _ | _ | _ <;> rfl

/-- A reply is what the source supplies, with a line feed behind it. -/
theorem resolve_reply_iff : (source.resolve minLength prompt s).1 = .reply line ↔
    ∃ body, source.Supplies minLength prompt s body ∧ line = body ++ "\n" := by
  obtain ⟨promptText, kind, handled⟩ := prompt
  cases kind with
  | keypair =>
    rw [resolve_keypair]
    constructor
    · intro h
      cases hanswer : (source.confirm s (keypairQuestion promptText)).1 with
      | none => simp [hanswer] at h
      | some yes =>
        have hline : Response.word yes ++ "\n" = line := by simpa [hanswer] using h
        exact ⟨_, .choice rfl hanswer, hline.symm⟩
    · rintro ⟨body, hsupplies, rfl⟩
      cases hsupplies with
      | choice _ hanswer => simp [hanswer]
      | secret hkind => cases hkind
  | password context =>
    constructor
    · intro h
      -- an answer that is refused is not replied, so only the one that ends the exchange can be
      rcases exists_decided_or_exhausted
          (source.answerTo (passwordRequest promptText context minLength) s) context minLength with
        ⟨i, hi, hrefused, hdecided⟩ | hall
      · rw [resolve_decided source s rfl hi hrefused hdecided,
          Response.ofSecret_eq_reply_iff] at h
        obtain ⟨body, hanswer, hbody, hline⟩ := h
        exact ⟨body, .secret rfl hi hrefused (hanswer ▸ hdecided) hanswer hbody, hline⟩
      · rw [resolve_exhausted source s rfl hall] at h
        cases h
    · rintro ⟨body, hsupplies, hline⟩
      cases hsupplies with
      | choice hkind => cases hkind
      | secret hkind hi hrefused hdecided hanswer hbody =>
        cases hkind
        rw [resolve_decided source s rfl hi hrefused (hanswer.symm ▸ hdecided),
          Response.ofSecret_eq_reply_iff]
        exact ⟨body, hanswer, hbody, hline⟩

theorem Supplies.lineBreakFree_of_keypair (h : source.Supplies minLength prompt s body)
    (hprompt : prompt.category = .keypair) : Text.LineBreakFree body := by
  cases h with
  | choice => exact Response.lineBreakFree_word _
  | secret hkind =>
    rw [Prompt.category, hkind] at hprompt
    cases hprompt

theorem Supplies.lineBreakFree (h : source.Supplies minLength prompt s body)
    (hsource : ∀ t request secret, (source.secret t request).1 = some secret →
      Text.LineBreakFree secret) : Text.LineBreakFree body := by
  cases h with
  | choice => exact Response.lineBreakFree_word _
  | secret _ _ _ _ hanswer => exact hsource _ _ body hanswer

/-- A password that is fixed beforehand is the only one that is supplied. -/
theorem Supplies.eq_of_presetFirst {p : PresetAnswers} {other : AnswerSource σ} {value : Text}
    (h : (presetFirst p other).Supplies minLength prompt s body)
    (hpassword : p.password = some value) (hprompt : prompt.category = .password) :
    body = value := by
  cases h with
  | choice hkind =>
    rw [Prompt.category, hkind] at hprompt
    cases hprompt
  | secret _ _ _ _ hanswer =>
    have hbody : some value = some body := by
      rw [← hanswer]
      simp [answerTo, presetFirst, hpassword]
    exact (Option.some.inj hbody).symm

end AnswerSource

/-! ## Whole replies -/

/-- The value of the variable is the password, whatever characters are in it. -/
theorem Job.password_of_presets {env : Environment} {yes : Bool} {name : Text} {p : PresetAnswers}
    (h : presets env yes (some name) = .ok p) :
    ∃ value, env name = some value ∧ p.password = some value := by
  unfold presets at h
  simp only at h
  split at h
  · rename_i value hvalue
    cases h
    exact ⟨value, (Option.filter_eq_some_iff.1 hvalue).1, rfl⟩
  · cases h

namespace AnswerSource

variable {σ : Type} {source : AnswerSource σ} {minLength : Nat} {prompt : Prompt} {s : σ}
variable {line : Text}

/--
A reply is what the source supplies with a line feed behind it, and is one line just if there is no
line break in that.  So it is where the question is about a keypair, and where no secret of the
source has a break in it; a reply from a variable is one line just if the value of the variable has
no break in it.
-/
theorem reply_isOneLine_iff (h : (source.resolve minLength prompt s).1 = .reply line) :
    (∃ body, source.Supplies minLength prompt s body ∧ line = body ++ "\n" ∧
      (Text.IsOneLine line ↔ Text.LineBreakFree body)) ∧
    (prompt.category = .keypair → Text.IsOneLine line) ∧
    ((∀ t request secret, (source.secret t request).1 = some secret → Text.LineBreakFree secret) →
      Text.IsOneLine line) ∧
    ∀ env yes name p other, Job.presets env yes (some name) = .ok p →
      source = presetFirst p other → prompt.category = .password →
      ∃ value, env name = some value ∧ line = value ++ "\n" ∧
        (Text.IsOneLine line ↔ Text.LineBreakFree value) := by
  obtain ⟨body, hsupplies, rfl⟩ := resolve_reply_iff.1 h
  refine ⟨⟨body, hsupplies, rfl, Text.isOneLine_append_iff⟩, ?_, ?_, ?_⟩
  · intro hprompt
    exact Text.isOneLine_append_iff.2 (hsupplies.lineBreakFree_of_keypair hprompt)
  · intro hsource
    exact Text.isOneLine_append_iff.2 (hsupplies.lineBreakFree hsource)
  · rintro env yes name p other hpresets rfl hprompt
    obtain ⟨value, hvalue, hpassword⟩ := Job.password_of_presets hpresets
    obtain rfl := hsupplies.eq_of_presetFirst hpassword hprompt
    exact ⟨body, hvalue, rfl, Text.isOneLine_append_iff⟩

def holding (password : Text) : Environment := fun name =>
  if name = "PW" then some password else none

def unlocking : Prompt :=
  ⟨"Enter password:", .password .decrypt, false⟩

theorem reply_isOneLine_of_variable :
    ∃ p, Job.presets (holding "hunter22") true (some "PW") = .ok p ∧
      ((presetFirst p (replaying fun _ => none)).resolve 8 unlocking 0).1 =
        .reply "hunter22\n" ∧
      Text.IsOneLine "hunter22\n" := by
  have hpresets : Job.presets (holding "hunter22") true (some "PW") =
      .ok ⟨some true, some "hunter22"⟩ := by rfl
  have hreply : ((presetFirst ⟨some true, some "hunter22"⟩ (replaying fun _ => none)).resolve 8
      unlocking 0).1 = .reply "hunter22\n" := by rfl
  obtain ⟨-, -, -, hvariable⟩ := reply_isOneLine_iff hreply
  obtain ⟨value, hvalue, -, hiff⟩ := hvariable _ _ _ _ _ hpresets rfl rfl
  refine ⟨_, hpresets, hreply, hiff.2 ?_⟩
  obtain rfl : ("hunter22" : Text) = value := Option.some.inj hvalue
  decide

/-- A variable with a break in it is two lines to the child. -/
theorem two_lines_replied :
    ∃ p, Job.presets (holding "a\nb") false (some "PW") = .ok p ∧
      ((presetFirst p (replaying fun _ => none)).resolve 8 unlocking 0).1 =
        .reply "a\nb\n" ∧
      ¬ Text.IsOneLine "a\nb\n" := by
  refine ⟨⟨none, some "a\nb"⟩, rfl, rfl, ?_⟩
  have happend : ("a\nb\n" : Text) = ("a\nb" : Text) ++ "\n" := rfl
  rw [happend, Text.isOneLine_append_iff]
  decide

end AnswerSource
end ContractAssist
