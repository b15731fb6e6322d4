import ContractAssist.Proofs.Json.Scanner

/-!
# Value — reading gives back what was written

The reader of JSON values undoes the grammar: of all texts of a value it makes that value.  It has
two limits, and these are the only values that it refuses.

1. `Value.fits` says that no number is out of range and that not too many arrays and objects are
   nested;
2. `Phrase.Reads` is what reading makes of a phrase, with a lemma for each way to write one, and
   `Spells.reads` that it makes it of all of them;
3. `Spells.parse?_eq` is the result for whole texts.
-/

namespace ContractAssist
namespace Json

/-! ## Limits -/

mutual

/-- A value within the limits of the reader, inside so many arrays and objects. -/
def Value.fits (depth : Nat) : Value → Bool
  | .number n => !n.tooLarge
  | .array vs => decide (depth + 1 < Builder.depthLimit) && elementsFit (depth + 1) vs
  | .object ms => decide (depth + 1 < Builder.depthLimit) && membersFit (depth + 1) ms
  | _ => true

def elementsFit (depth : Nat) : List Value → Bool
  | [] => true
  | v :: vs => v.fits depth && elementsFit depth vs

def membersFit (depth : Nat) : List (Text × Value) → Bool
  | [] => true
  | (_, v) :: ms => v.fits depth && membersFit depth ms

end

/-! ## Parts of a text -/

/-- What reading makes of the text of a phrase, where such a phrase is wanted. -/
def Phrase.Reads : Phrase → Text → Prop
  | .value v, t => ∀ stack closable rest, Ends rest →
      read? .between ⟨stack, .value closable⟩ (t ++ rest) =
        if v.fits stack.length then read? .between ⟨stack, .more v⟩ rest else none
  | .elements vs, t => ∀ stack done closable rest,
      read? .between ⟨.array done :: stack, .value closable⟩ (t ++ ']' :: rest) =
        if elementsFit (stack.length + 1) vs then
          read? .between ⟨stack, .more (.array (done.reverse ++ vs))⟩ rest
        else none
  | .members ms, t => ∀ stack done closable rest,
      read? .between ⟨stack, .key done closable⟩ (t ++ '\x7d' :: rest) =
        if membersFit (stack.length + 1) ms then
          read? .between ⟨stack, .more (.object (done.reverse ++ ms))⟩ rest
        else none

theorem ends_cons {c : Char} (h : c.isDigit = false ∧ c ≠ '.' ∧ c ≠ 'e' ∧ c ≠ 'E') (rest : Text) :
    Ends (c :: rest) := by
  intro d hd
  obtain rfl : c = d := by simpa using hd
  exact h

/-- White space ends a number. -/
theorem Spaces.ends_append {t rest : Text} (h : Spaces t) (hrest : Ends rest) :
    Ends (t ++ rest) := by
  cases t with
  | nil => exact hrest
  | cons c t =>
    refine ends_cons ?_ (t ++ rest)
    rcases h c List.mem_cons_self with rfl | rfl | rfl | rfl <;> decide

variable {stack : List Frame}

/-- A bracket, a comma or a colon is a token by itself. -/
theorem read?_mark (c : Char) (token : Token) {b b' : Builder}
    (hstart : Scanner.start? c = some ([token], .between)) (hstep : b.step? token = some b')
    (rest : Text) : read? .between b (c :: rest) = read? .between b' rest := by
  have hread := read?_token (s := .between) hstart b rest
  simpa only [hstep, Option.bind_some] using hread

/-- To open an array or an object is to nest one deeper. -/
theorem step?_openArray (stack : List Frame) (closable : Bool) :
    (Builder.mk stack (.value closable)).step? .openArray =
      if stack.length + 1 < Builder.depthLimit then some ⟨.array [] :: stack, .value true⟩
      else none :=
  rfl

theorem step?_openObject (stack : List Frame) (closable : Bool) :
    (Builder.mk stack (.value closable)).step? .openObject =
      if stack.length + 1 < Builder.depthLimit then some ⟨stack, .key [] true⟩ else none :=
  rfl

/-- The letters of a literal are taken up, and the last one ends it. -/
theorem read?_literal {letters : Text} (h : letters ≠ []) (token : Token) (b : Builder)
    (rest : Text) :
    read? (.literal letters token) b (letters ++ rest) =
      (b.step? token).bind fun b' => read? .between b' rest := by
  induction letters with
  | nil => exact absurd rfl h
  | cons c letters ih =>
    cases letters with
    | nil =>
      have hlast : (Scanner.literal [c] token).step? c = some ([token], .between) := by
        simp [Scanner.step?]
      exact read?_token hlast b rest
    | cons d letters =>
      have hnext : (Scanner.literal (c :: d :: letters) token).step? c =
          some ([], .literal (d :: letters) token) := by
        simp [Scanner.step?]
      exact (read?_silent hnext b _).trans (ih (List.cons_ne_nil d letters))

/-- A value that is one token is put in place at once. -/
theorem reads_literal {first : Char} {letters : Text} {token : Token} {v : Value}
    (hstart : Scanner.start? first = some ([], .literal letters token)) (h : letters ≠ [])
    (htoken : Builder.scalar? token = some v) (hfits : ∀ depth, v.fits depth = true) :
    Phrase.Reads (.value v) (first :: letters) := by
  intro stack closable rest _
  calc
    read? .between ⟨stack, .value closable⟩ (first :: letters ++ rest)
        = read? (.literal letters token) ⟨stack, .value closable⟩ (letters ++ rest) :=
          read?_silent (s := .between) hstart _ _
    _ = ((Builder.mk stack (.value closable)).step? token).bind fun b' => read? .between b' rest :=
          read?_literal h token _ rest
    _ = read? .between ⟨stack, .more v⟩ rest := by simp [Builder.step?, htoken]
    _ = _ := by simp only [hfits, if_true]

/-- What stands between brackets is read one deeper. -/
theorem read?_nested (opening : Char) (token : Token) {next : Builder} {closable : Bool}
    (hstart : Scanner.start? opening = some ([token], .between))
    (hopen : (Builder.mk stack (.value closable)).step? token =
      if stack.length + 1 < Builder.depthLimit then some next else none) (t : Text) :
    read? .between ⟨stack, .value closable⟩ (opening :: t) =
      if stack.length + 1 < Builder.depthLimit then read? .between next t else none := by
  have hread := read?_token (s := .between) hstart ⟨stack, .value closable⟩ t
  by_cases hdepth : stack.length + 1 < Builder.depthLimit
  · simp [hread, hopen, hdepth]
  · simp [hread, hopen, hdepth]

/-- A key and the colon after it open a member. -/
theorem read?_key {k key before between front : Text} (hbefore : Spaces before)
    (hkey : StringSpells k key) (hbetween : Spaces between) (hfront : Spaces front)
    (stack : List Frame) (done : List (Text × Value)) (closable : Bool) (t : Text) :
    read? .between ⟨stack, .key done closable⟩
        (before ++ (key ++ (between ++ ':' :: (front ++ t)))) =
      read? .between ⟨.object done k :: stack, .value false⟩ t := by
  calc
    read? .between ⟨stack, .key done closable⟩
          (before ++ (key ++ (between ++ ':' :: (front ++ t))))
        = read? .between ⟨stack, .key done closable⟩ (key ++ (between ++ ':' :: (front ++ t))) :=
          read?_spaces hbefore _ _
    _ = read? .between ⟨stack, .colon done k⟩ (between ++ ':' :: (front ++ t)) :=
          hkey.read? _ _
    _ = read? .between ⟨stack, .colon done k⟩ (':' :: (front ++ t)) := read?_spaces hbetween _ _
    _ = read? .between ⟨.object done k :: stack, .value false⟩ (front ++ t) :=
          read?_mark ':' .colon rfl rfl _
    _ = read? .between ⟨.object done k :: stack, .value false⟩ t := read?_spaces hfront _ _

/-! ## Phrase by phrase -/

theorem reads_number {n : Numeral} {t : Text} (h : NumeralSpells n t) :
    Phrase.Reads (.value (.number n)) t := by
  intro stack closable rest hend
  have hread := h.read? ⟨stack, .value closable⟩ hend
  cases hlarge : n.tooLarge <;> simp [hread, hlarge, Value.fits, Builder.step?, Builder.scalar?]

theorem reads_string {s t : Text} (h : StringSpells s t) :
    Phrase.Reads (.value (.string s)) t := by
  intro stack closable rest _
  have hread := h.read? ⟨stack, .value closable⟩ rest
  simp [hread, Value.fits, Builder.step?, Builder.scalar?]

/-- An array is read as its inside is, where the bracket has opened it. -/
theorem reads_array {vs : List Value} {t : Text}
    (hinside : ∀ stack rest, read? .between ⟨.array [] :: stack, .value true⟩ (t ++ ']' :: rest) =
      if elementsFit (stack.length + 1) vs then read? .between ⟨stack, .more (.array vs)⟩ rest
      else none) : Phrase.Reads (.value (.array vs)) ('[' :: t ++ [']']) := by
  intro stack closable rest _
  have hread := read?_nested '[' .openArray rfl (step?_openArray stack closable) (t ++ ']' :: rest)
  rw [hinside] at hread
  by_cases hdepth : stack.length + 1 < Builder.depthLimit
  · simpa [Value.fits, hdepth] using hread
  · simpa [Value.fits, hdepth] using hread

/-- An object is read as its inside is, where the brace has opened it. -/
theorem reads_object {ms : List (Text × Value)} {t : Text}
    (hinside : ∀ stack rest, read? .between ⟨stack, .key [] true⟩ (t ++ '\x7d' :: rest) =
      if membersFit (stack.length + 1) ms then read? .between ⟨stack, .more (.object ms)⟩ rest
      else none) : Phrase.Reads (.value (.object ms)) ('\x7b' :: t ++ ['\x7d']) := by
  intro stack closable rest _
  have hread := read?_nested '\x7b' .openObject rfl (step?_openObject stack closable)
    (t ++ '\x7d' :: rest)
  rw [hinside] at hread
  by_cases hdepth : stack.length + 1 < Builder.depthLimit
  · simpa [Value.fits, hdepth] using hread
  · simpa [Value.fits, hdepth] using hread

theorem reads_emptyArray {t : Text} (h : Spaces t) :
    Phrase.Reads (.value (.array [])) ('[' :: t ++ [']']) := by
  refine reads_array ?_
  intro stack rest
  have hclose : read? .between ⟨.array [] :: stack, .value true⟩ (']' :: rest) =
      read? .between ⟨stack, .more (.array [])⟩ rest := read?_mark ']' .closeArray rfl rfl rest
  exact (read?_spaces h _ _).trans hclose

theorem reads_emptyObject {t : Text} (h : Spaces t) :
    Phrase.Reads (.value (.object [])) ('\x7b' :: t ++ ['\x7d']) := by
  refine reads_object ?_
  intro stack rest
  have hclose : read? .between ⟨stack, .key [] true⟩ ('\x7d' :: rest) =
      read? .between ⟨stack, .more (.object [])⟩ rest :=
    read?_mark '\x7d' .closeObject rfl rfl rest
  exact (read?_spaces h _ _).trans hclose

/-- A value is over at a mark behind it, and the mark is taken up if the value is. -/
theorem Phrase.Reads.read?_mark {v : Value} {t after : Text} (h : Phrase.Reads (.value v) t)
    (hafter : Spaces after) {c : Char} {token : Token} {b : Builder}
    (hc : c.isDigit = false ∧ c ≠ '.' ∧ c ≠ 'e' ∧ c ≠ 'E')
    (hstart : Scanner.start? c = some ([token], .between))
    (hstep : (Builder.mk stack (.more v)).step? token = some b) (closable : Bool) (rest : Text) :
    read? .between ⟨stack, .value closable⟩ (t ++ (after ++ c :: rest)) =
      if v.fits stack.length then read? .between b rest else none := by
  -- a number is over only if what follows lets it be: white space does, and so does the mark
  have hend : Ends (after ++ c :: rest) := hafter.ends_append (ends_cons hc rest)
  have hmark : read? .between ⟨stack, .more v⟩ (after ++ c :: rest) = read? .between b rest :=
    (read?_spaces hafter _ _).trans (Json.read?_mark c token hstart hstep rest)
  rw [h stack closable _ hend, hmark]

section
variable {v : Value} {vs : List Value} {ms : List (Text × Value)}
variable {k key t before between front after later : Text}

theorem reads_element (hbefore : Spaces before) (h : Phrase.Reads (.value v) t)
    (hafter : Spaces after) : Phrase.Reads (.elements [v]) (before ++ (t ++ after)) := by
  intro stack done closable rest
  calc
    read? .between ⟨.array done :: stack, .value closable⟩ (before ++ (t ++ after) ++ ']' :: rest)
        = read? .between ⟨.array done :: stack, .value closable⟩
            (before ++ (t ++ (after ++ ']' :: rest))) := by simp only [List.append_assoc]
    _ = read? .between ⟨.array done :: stack, .value closable⟩ (t ++ (after ++ ']' :: rest)) :=
          read?_spaces hbefore _ _
    _ = if v.fits (stack.length + 1) then
          read? .between ⟨stack, .more (.array (v :: done).reverse)⟩ rest
        else none := h.read?_mark hafter (by decide) rfl rfl closable rest
    _ = _ := by simp [elementsFit]

/-- The later elements are read with the first one among those done. -/
theorem reads_elements (hbefore : Spaces before) (h : Phrase.Reads (.value v) t)
    (hafter : Spaces after) (hlater : Phrase.Reads (.elements vs) later) :
    Phrase.Reads (.elements (v :: vs)) (before ++ (t ++ (after ++ ',' :: later))) := by
  intro stack done closable rest
  calc
    read? .between ⟨.array done :: stack, .value closable⟩
          (before ++ (t ++ (after ++ ',' :: later)) ++ ']' :: rest)
        = read? .between ⟨.array done :: stack, .value closable⟩
            (before ++ (t ++ (after ++ ',' :: (later ++ ']' :: rest)))) := by
          simp only [List.append_assoc, List.cons_append]
    _ = read? .between ⟨.array done :: stack, .value closable⟩
          (t ++ (after ++ ',' :: (later ++ ']' :: rest))) := read?_spaces hbefore _ _
    _ = if v.fits (stack.length + 1) then
          read? .between ⟨.array (v :: done) :: stack, .value false⟩ (later ++ ']' :: rest)
        else none := h.read?_mark hafter (by decide) rfl rfl closable _
    _ = if v.fits (stack.length + 1) then
          if elementsFit (stack.length + 1) vs then
            read? .between ⟨stack, .more (.array ((v :: done).reverse ++ vs))⟩ rest
          else none
        else none := by rw [hlater]
    _ = _ := by cases hfits : v.fits (stack.length + 1) <;> simp [elementsFit, hfits]

theorem reads_member (hbefore : Spaces before) (hkey : StringSpells k key)
    (hbetween : Spaces between) (hfront : Spaces front) (h : Phrase.Reads (.value v) t)
    (hafter : Spaces after) : Phrase.Reads (.members [(k, v)])
      (before ++ (key ++ (between ++ ':' :: (front ++ (t ++ after))))) := by
  intro stack done closable rest
  calc
    read? .between ⟨stack, .key done closable⟩
          (before ++ (key ++ (between ++ ':' :: (front ++ (t ++ after)))) ++ '\x7d' :: rest)
        = read? .between ⟨stack, .key done closable⟩ (before ++ (key ++ (between ++
            ':' :: (front ++ (t ++ (after ++ '\x7d' :: rest)))))) := by
          simp only [List.append_assoc, List.cons_append]
    _ = read? .between ⟨.object done k :: stack, .value false⟩ (t ++ (after ++ '\x7d' :: rest)) :=
          read?_key hbefore hkey hbetween hfront stack done closable _
    _ = if v.fits (stack.length + 1) then
          read? .between ⟨stack, .more (.object ((k, v) :: done).reverse)⟩ rest
        else none := h.read?_mark hafter (by decide) rfl rfl false rest
    _ = _ := by simp [membersFit]

/-- The later members are read with the first one among those done. -/
theorem reads_members (hbefore : Spaces before) (hkey : StringSpells k key)
    (hbetween : Spaces between) (hfront : Spaces front) (h : Phrase.Reads (.value v) t)
    (hafter : Spaces after) (hlater : Phrase.Reads (.members ms) later) :
    Phrase.Reads (.members ((k, v) :: ms))
      (before ++ (key ++ (between ++ ':' :: (front ++ (t ++ (after ++ ',' :: later)))))) := by
  intro stack done closable rest
  calc
    read? .between ⟨stack, .key done closable⟩
          (before ++ (key ++ (between ++ ':' :: (front ++ (t ++ (after ++ ',' :: later))))) ++
            '\x7d' :: rest)
        = read? .between ⟨stack, .key done closable⟩ (before ++ (key ++ (between ++
            ':' :: (front ++ (t ++ (after ++ ',' :: (later ++ '\x7d' :: rest))))))) := by
          simp only [List.append_assoc, List.cons_append]
    _ = read? .between ⟨.object done k :: stack, .value false⟩
          (t ++ (after ++ ',' :: (later ++ '\x7d' :: rest))) :=
          read?_key hbefore hkey hbetween hfront stack done closable _
    _ = if v.fits (stack.length + 1) then
          read? .between ⟨stack, .key ((k, v) :: done) false⟩ (later ++ '\x7d' :: rest)
        else none := h.read?_mark hafter (by decide) rfl rfl false _
    _ = if v.fits (stack.length + 1) then
          if membersFit (stack.length + 1) ms then
            read? .between ⟨stack, .more (.object (((k, v) :: done).reverse ++ ms))⟩ rest
          else none
        else none := by rw [hlater]
    _ = _ := by cases hfits : v.fits (stack.length + 1) <;> simp [membersFit, hfits]

end

/-- What reading makes of the text of a phrase is the phrase, if it is within the limits. -/
theorem Spells.reads {phrase : Phrase} {t : Text} (h : Spells phrase t) : phrase.Reads t := by
  -- every part is read in front of any rest, so that the cases fit together; what elements and
  -- members have before them is carried along in the builder
  induction h with
  | null => exact reads_literal rfl (by simp) rfl (fun _ => rfl)
  | truth => exact reads_literal rfl (by simp) rfl (fun _ => rfl)
  | falsehood => exact reads_literal rfl (by simp) rfl (fun _ => rfl)
  | number h => exact reads_number h
  | string h => exact reads_string h
  | emptyArray h => exact reads_emptyArray h
  | array _ ih => exact reads_array fun stack rest => ih stack [] true rest
  | emptyObject h => exact reads_emptyObject h
  | object _ ih => exact reads_object fun stack rest => ih stack [] true rest
  | element hbefore _ hafter ih => exact reads_element hbefore ih hafter
  | elements hbefore _ hafter _ ih ihlater => exact reads_elements hbefore ih hafter ihlater
  | member hbefore hkey hbetween hfront _ hafter ih =>
    exact reads_member hbefore hkey hbetween hfront ih hafter
  | members hbefore hkey hbetween hfront _ hafter _ ih ihlater =>
    exact reads_members hbefore hkey hbetween hfront ih hafter ihlater

/-! ## Whole texts -/

/-- Of all texts of a value the reader makes that value, if it is within the limits. -/
theorem Spells.parse?_eq {v : Value} {t : Text} (h : Spells (.value v) t) :
    Value.parse? t = if v.fits 0 then some v else none := by
  have hend : Ends [] := by
    intro c hc
    cases hc
  have hread := h.reads [] false [] hend
  simpa [Value.parse?, Token.scan?, read?, Builder.empty, Scanner.scan?, Scanner.finish?,
    Builder.build?, Builder.finish?] using hread

end Json
end ContractAssist
