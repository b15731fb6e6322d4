import ContractAssist.Address.Offset
import ContractAssist.Proofs.Address
import ContractAssist.Proofs.Text.Pattern
import ContractAssist.Proofs.Text.Slice

/-!
# Address.Search — which address is found

Whoever looks for the pattern of an address and finds a leftmost match, has found the first place
where an address stands.

1. `Stands` says that an address stands at some place of a text, `StandsFirst` that it is the first
   one;
2. `StandsFirst.seek_eq` and `seek_eq_none`: the first address is what is looked for place by place;
3. `stands_of_occurs` and `Stands.exists_occurs`: the matches of the pattern are the places where an
   address stands, and their groups are its digits;
4. `findBy?_eq` and `findDelimitedBy?_eq`: the text may be cut there, and both searches agree;
   `addresses_of_search` puts this together.
-/

namespace ContractAssist
namespace Address

open Text (Extent Groups Match Pattern Searcher byteSize)

variable {t front address rest : Text}

/-! ## Places -/

/-- An address stands in a text, with something in front of it and behind it. -/
structure Stands (t front address rest : Text) : Prop where
  -- the text is made of the three
  text : t = front ++ (address ++ rest)
  -- the address is the prefix and forty digits
  address : ∃ digits : Text, address = '0' :: 'x' :: digits ∧ digits.length = 40 ∧
    ∀ d ∈ digits, isHexDigit d = true
  rest : ∀ c ∈ rest.head?, isHexDigit c = false

structure StandsFirst (t front address rest : Text) : Prop extends
    Stands t front address rest where
  -- no address stands in front of it
  least : ∀ front' address' rest', Stands t front' address' rest' → front.length ≤ front'.length

theorem exactDigits_iff {n : Nat} : exactDigits n t = true ↔ ∃ digits rest, t = digits ++ rest ∧
    digits.length = n ∧ (∀ d ∈ digits, isHexDigit d = true) ∧
    ∀ c ∈ rest.head?, isHexDigit c = false := by
  constructor
  · intro h
    induction n generalizing t with
    | zero =>
      refine ⟨[], t, rfl, rfl, by simp, ?_⟩
      cases t with
      | nil => simp
      | cons c r => simpa [exactDigits] using h
    | succ n ih =>
      cases t with
      | nil => simp [exactDigits] at h
      | cons d r =>
        have hd : isHexDigit d = true ∧ exactDigits n r = true := by simpa [exactDigits] using h
        obtain ⟨digits, rest, rfl, rfl, hdigits, hrest⟩ := ih hd.2
        exact ⟨d :: digits, rest, rfl, rfl, List.forall_mem_cons.2 ⟨hd.1, hdigits⟩, hrest⟩
  · rintro ⟨digits, rest, rfl, rfl, hdigits, hrest⟩
    induction digits with
    | nil =>
      cases rest with
      | nil => rfl
      | cons c r => simpa [exactDigits] using hrest
    | cons d digits ih =>
      obtain ⟨hd, hdigits⟩ := List.forall_mem_cons.1 hdigits
      simpa [exactDigits, hd] using ih hdigits

theorem exists_stands_of_startsAddress (h : startsAddress t = true) :
    ∃ address rest, Stands t [] address rest := by
  obtain ⟨r, rfl, hr⟩ := startsAddress_iff.1 h
  obtain ⟨digits, rest, rfl, hlength, hdigits, hrest⟩ := exactDigits_iff.1 hr
  exact ⟨'0' :: 'x' :: digits, rest, rfl, ⟨digits, rfl, hlength, hdigits⟩, hrest⟩

namespace Stands

theorem starts (h : Stands t front address rest) :
    startsAddress (address ++ rest) = true := by
  obtain ⟨digits, rfl, hlength, hdigits⟩ := h.address
  exact exactDigits_iff.2 ⟨digits, rest, rfl, hlength, hdigits, h.rest⟩

theorem length_eq (h : Stands t front address rest) : address.length = size := by
  obtain ⟨digits, rfl, hlength, -⟩ := h.address
  simp [size, digitCount, hlength]

/-- The address begins here, or stands in what follows the first character. -/
theorem of_cons {c d : Char} (h : Stands (c :: t) (d :: front) address rest) :
    Stands t front address rest :=
  ⟨(List.cons.inj h.text).2, h.address, h.rest⟩

theorem cons (h : Stands t front address rest) (c : Char) :
    Stands (c :: t) (c :: front) address rest :=
  ⟨congrArg (c :: ·) h.text, h.address, h.rest⟩

end Stands

theorem not_stands_nil : ¬ Stands [] front address rest := by
  intro h
  obtain ⟨digits, rfl, -, -⟩ := h.address
  simpa using h.text

/-- Unless the first character begins an address, an address stands behind it. -/
theorem Stands.exists_front {c : Char} (h : Stands (c :: t) front address rest)
    (hstart : startsAddress (c :: t) = false) :
    ∃ front', front = c :: front' ∧ Stands t front' address rest := by
  cases front with
  | nil =>
    have hbegins := h.starts
    rw [← h.text.trans (List.nil_append _), hstart] at hbegins
    cases hbegins
  | cons d front' =>
    obtain rfl : c = d := (List.cons.inj h.text).1
    exact ⟨front', rfl, h.of_cons⟩

theorem standsFirst_or_not (t : Text) : (∃ front address rest, StandsFirst t front address rest) ∨
    ∀ front address rest, ¬ Stands t front address rest := by
  -- the first address begins with the first character, or is the first one behind it
  induction t with
  | nil => exact .inr fun _ _ _ => not_stands_nil
  | cons c r ih =>
    cases hstart : startsAddress (c :: r) with
    | true =>
      obtain ⟨address, rest, h⟩ := exists_stands_of_startsAddress hstart
      exact .inl ⟨[], address, rest, h, fun _ _ _ _ => Nat.zero_le _⟩
    | false =>
      rcases ih with ⟨front, address, rest, h, hleast⟩ | hnone
      · refine .inl ⟨c :: front, address, rest, h.cons c, ?_⟩
        intro front' address' rest' h'
        obtain ⟨front'', rfl, h''⟩ := h'.exists_front hstart
        exact Nat.succ_le_succ (hleast _ _ _ h'')
      · refine .inr fun front address rest h => ?_
        obtain ⟨front', -, h'⟩ := h.exists_front hstart
        exact hnone _ _ _ h'

/-! ## Place by place -/

theorem seek_eq_none (h : ∀ front address rest, ¬ Stands t front address rest) : seek t = none := by
  induction t with
  | nil => rfl
  | cons c r ih =>
    have hstart : ¬ startsAddress (c :: r) = true := by
      intro hstart
      obtain ⟨address, rest, hstands⟩ := exists_stands_of_startsAddress hstart
      exact h _ _ _ hstands
    rw [seek, if_neg hstart]
    exact ih fun front address rest hstands => h _ _ _ (hstands.cons c)

theorem StandsFirst.seek_eq (h : StandsFirst t front address rest) :
    seek t = some (address ++ rest) := by
  induction front generalizing t with
  | nil =>
    obtain rfl : t = address ++ rest := h.text
    obtain ⟨digits, rfl, -, -⟩ := h.address
    exact if_pos h.starts
  | cons c front ih =>
    obtain rfl := h.text
    -- an address that begins here would stand in front of the first one
    have hstart : ¬ startsAddress (c :: (front ++ (address ++ rest))) = true := by
      intro hstart
      obtain ⟨address', rest', hstands⟩ := exists_stands_of_startsAddress hstart
      exact absurd (h.least _ _ _ hstands) (by simp)
    rw [List.cons_append, seek, if_neg hstart]
    refine ih ⟨h.toStands.of_cons, ?_⟩
    intro front' address' rest' h'
    exact Nat.le_of_succ_le_succ (h.least _ _ _ (h'.cons c))

theorem StandsFirst.find?_eq (h : StandsFirst t front address rest) : find? t = some address := by
  rw [find?, h.seek_eq, Option.map_some, ← h.length_eq, List.take_left]

theorem StandsFirst.findDelimited?_eq (h : StandsFirst t front address rest) :
    findDelimited? t = if rest = [] then none else some address := by
  simp only [findDelimited?, h.seek_eq, ← h.length_eq, List.take_left, List.drop_left,
    List.isEmpty_iff]

theorem find?_eq_some_iff : find? t = some address ↔
    ∃ front rest, StandsFirst t front address rest := by
  constructor
  · intro hfind
    rcases standsFirst_or_not t with ⟨front, address', rest, h⟩ | hnone
    · obtain rfl : address' = address := Option.some.inj (h.find?_eq.symm.trans hfind)
      exact ⟨front, rest, h⟩
    · rw [find?, seek_eq_none hnone] at hfind
      cases hfind
  · rintro ⟨front, rest, h⟩
    exact h.find?_eq

theorem find?_eq_none_iff :
    find? t = none ↔ ∀ front address rest, ¬ Stands t front address rest := by
  constructor
  · intro hfind
    rcases standsFirst_or_not t with ⟨front, address, rest, h⟩ | hnone
    · rw [h.find?_eq] at hfind
      cases hfind
    · exact hnone
  · intro hnone
    rw [find?, seek_eq_none hnone]
    rfl

theorem findDelimited?_eq_some_iff : findDelimited? t = some address ↔
    ∃ front rest, StandsFirst t front address rest ∧ rest ≠ [] := by
  constructor
  · intro hfind
    obtain ⟨front, rest, h⟩ := find?_eq_some_iff.1 (find?_of_findDelimited? hfind)
    refine ⟨front, rest, h, ?_⟩
    intro hrest
    rw [h.findDelimited?_eq, if_pos hrest] at hfind
    cases hfind
  · rintro ⟨front, rest, h, hrest⟩
    rw [h.findDelimited?_eq, if_neg hrest]

theorem findDelimited?_eq_none_iff : findDelimited? t = none ↔
    ∀ front address rest, StandsFirst t front address rest → rest = [] := by
  constructor
  · intro hfind front address rest h
    cases rest with
    | nil => rfl
    | cons c r =>
      rw [h.findDelimited?_eq, if_neg (List.cons_ne_nil c r)] at hfind
      cases hfind
  · intro h
    rcases standsFirst_or_not t with ⟨front, address, rest, hfirst⟩ | hnone
    · rw [hfirst.findDelimited?_eq, if_pos (h _ _ _ hfirst)]
    · rw [findDelimited?, seek_eq_none hnone]

/-! ## Matches of the pattern -/

theorem byteSize_of_isHexDigit (h : ∀ c ∈ t, isHexDigit c = true) : byteSize t = t.length :=
  Text.byteSize_eq_length fun c hc => utf8Size_of_isHexDigit (h c hc)

theorem Stands.byteSize_eq (h : Stands t front address rest) : byteSize address = size := by
  obtain ⟨digits, rfl, hlength, hdigits⟩ := h.address
  have hbegin : byteSize ['0', 'x'] = 2 := rfl
  calc byteSize ('0' :: 'x' :: digits)
      = byteSize ['0', 'x'] + byteSize digits := Text.byteSize_append ['0', 'x'] digits
    _ = size := by rw [hbegin, byteSize_of_isHexDigit hdigits, hlength]; rfl

/-- What follows an address is another character that is no digit, or nothing. -/
theorem matches_end_iff {start stop : Nat} {groups : Groups} :
    (Pattern.either (.one fun c => !isHexDigit c) .atEnd).Matches start t stop rest groups ↔
      groups = [] ∧ ((t = [] ∧ rest = [] ∧ stop = start) ∨
        ∃ c, isHexDigit c = false ∧ t = c :: rest ∧ stop = start + c.utf8Size) := by
  simp only [Pattern.matches_either_iff, Pattern.matches_one_iff, Pattern.matches_atEnd_iff,
    Bool.not_eq_true']
  constructor
  · rintro (⟨c, hc, rfl, rfl, rfl⟩ | ⟨rfl, rfl, rfl, rfl⟩)
    · exact ⟨rfl, .inr ⟨c, hc, rfl, rfl⟩⟩
    · exact ⟨rfl, .inl ⟨rfl, rfl, rfl⟩⟩
  · rintro ⟨rfl, ⟨rfl, rfl, rfl⟩ | ⟨c, hc, rfl, rfl⟩⟩
    · exact .inr ⟨rfl, rfl, rfl, rfl⟩
    · exact .inl ⟨c, hc, rfl, rfl, rfl⟩

/-- What the pattern matches is an address, and what belongs to its group are the digits. -/
theorem exists_stands_of_matches {start stop : Nat} {groups : Groups}
    (h : pattern.Matches start t stop rest groups) :
    ∃ address behind, Stands t [] address behind ∧
      groups = [(1, ⟨start + 2, start + size⟩)] ∧ (stop = start + size ↔ behind = []) := by
  -- the match is taken apart along the pattern
  obtain ⟨_, _, _, _, hzero, hbehindZero, rfl⟩ := Pattern.matches_seq_iff.1 h
  obtain ⟨c, hc, rfl, rfl, rfl⟩ := Pattern.matches_one_iff.1 hzero
  obtain ⟨_, _, _, _, hx, hbehindPrefix, rfl⟩ := Pattern.matches_seq_iff.1 hbehindZero
  obtain ⟨d, hd, rfl, rfl, rfl⟩ := Pattern.matches_one_iff.1 hx
  obtain ⟨_, behind, _, _, hgroup, hend, rfl⟩ := Pattern.matches_seq_iff.1 hbehindPrefix
  obtain ⟨_, htimes, rfl⟩ := Pattern.matches_group_iff.1 hgroup
  obtain ⟨digits, rfl, hlength, hdigits, rfl, rfl⟩ := Pattern.matches_times_one_iff.1 htimes
  obtain ⟨rfl, hbehind⟩ := matches_end_iff.1 hend
  obtain rfl : c = '0' := of_decide_eq_true hc
  obtain rfl : d = 'x' := of_decide_eq_true hd
  -- prefix and digits are one byte each, so that their offsets count characters
  have hsize : start + '0'.utf8Size + 'x'.utf8Size + byteSize digits = start + size := by
    rw [byteSize_of_isHexDigit hdigits, hlength]
    rfl
  have hstands : Stands ('0' :: 'x' :: (digits ++ behind)) [] ('0' :: 'x' :: digits) behind := by
    refine ⟨rfl, ⟨digits, rfl, hlength, hdigits⟩, ?_⟩
    rcases hbehind with ⟨rfl, -, -⟩ | ⟨c, hc, rfl, -⟩
    · simp
    · simpa using hc
  refine ⟨_, behind, hstands, ?_, ?_⟩
  · rw [hsize]
    rfl
  · rw [hsize] at hbehind
    rcases hbehind with ⟨rfl, -, rfl⟩ | ⟨c, -, rfl, rfl⟩
    · simp
    · -- the character behind the digits belongs to the match
      have hpos := c.utf8Size_pos
      refine iff_of_false ?_ (List.cons_ne_nil c rest)
      omega

/-- The pattern matches every address. -/
theorem Stands.exists_matches (h : Stands t [] address rest) (start : Nat) :
    ∃ stop rest groups, pattern.Matches start t stop rest groups := by
  obtain ⟨digits, rfl, hlength, hdigits⟩ := h.address
  obtain rfl := h.text
  have hend : ∃ stop rest', (Pattern.either (.one fun c => !isHexDigit c) .atEnd).Matches
      (start + '0'.utf8Size + 'x'.utf8Size + byteSize digits) rest stop rest' [] := by
    cases rest with
    | nil => exact ⟨_, _, matches_end_iff.2 ⟨rfl, .inl ⟨rfl, rfl, rfl⟩⟩⟩
    | cons c r =>
      have hc : isHexDigit c = false := h.rest c rfl
      exact ⟨_, _, matches_end_iff.2 ⟨rfl, .inr ⟨c, hc, rfl, rfl⟩⟩⟩
  obtain ⟨stop, rest', hend⟩ := hend
  have hdigits : (Pattern.times digitCount (.one isHexDigit)).Matches
      (start + '0'.utf8Size + 'x'.utf8Size) (digits ++ rest)
      (start + '0'.utf8Size + 'x'.utf8Size + byteSize digits) rest [] :=
    Pattern.matches_times_one_iff.2 ⟨digits, rfl, hlength, hdigits, rfl, rfl⟩
  exact ⟨stop, rest', _, .seq (.one (by decide)) (.seq (.one (by decide))
    (.seq (.group hdigits) hend))⟩

/-- A match of the pattern is an address, two bytes in front of the digits that belong to it. -/
theorem stands_of_occurs {m : Match} (h : pattern.Occurs t m) :
    ∃ front address rest, Stands t front address rest ∧ m.whole.start = byteSize front ∧
      m.groups = [(1, ⟨byteSize front + 2, byteSize front + size⟩)] ∧
      (m.whole.stop = byteSize front + size ↔ rest = []) := by
  obtain ⟨front, behind, _, rfl, hstart, hmatches⟩ := h
  rw [hstart] at hmatches
  obtain ⟨address, rest, hstands, hgroups, hstop⟩ := exists_stands_of_matches hmatches
  exact ⟨front, address, rest, ⟨congrArg (front ++ ·) hstands.text, hstands.address, hstands.rest⟩,
    hstart, hgroups, hstop⟩

theorem Stands.exists_occurs (h : Stands t front address rest) :
    ∃ m, pattern.Occurs t m ∧ m.whole.start = byteSize front := by
  have hhere : Stands (address ++ rest) [] address rest := ⟨rfl, h.address, h.rest⟩
  obtain ⟨stop, behind, groups, hmatches⟩ := hhere.exists_matches (byteSize front)
  exact ⟨⟨⟨byteSize front, stop⟩, groups⟩, ⟨front, _, behind, h.text, rfl, hmatches⟩, rfl⟩

/-! ## Searching for the pattern -/

/-- Of two beginnings of a text, the longer one has more bytes. -/
theorem length_le_of_byteSize_le {front' : Text} (h : front <+: t) (h' : front' <+: t)
    (hsize : byteSize front ≤ byteSize front') : front.length ≤ front'.length := by
  rcases List.prefix_or_prefix_of_prefix h h' with hbegin | ⟨more, rfl⟩
  · exact hbegin.length_le
  · cases more with
    | nil => simp
    | cons c r =>
      have hpos := Text.byteSize_pos (List.cons_ne_nil c r)
      rw [Text.byteSize_append] at hsize
      omega

variable {search : Searcher} {m : Match}

theorem Stands.front_prefix (h : Stands t front address rest) : front <+: t :=
  ⟨_, h.text.symm⟩

/-- A leftmost match of the pattern is the first address. -/
theorem standsFirst_of_search (hsearch : search.LeftmostFor pattern)
    (h : search pattern t = some m) :
    ∃ front address rest, StandsFirst t front address rest ∧
      m.group? 1 = some ⟨byteSize front + 2, byteSize front + size⟩ ∧
      (m.whole.stop = byteSize front + size ↔ rest = []) := by
  obtain ⟨front, address, rest, hstands, hstart, hgroups, hstop⟩ :=
    stands_of_occurs (hsearch.occurs t m h)
  refine ⟨front, address, rest, ⟨hstands, ?_⟩, ?_, hstop⟩
  · intro front' address' rest' h'
    obtain ⟨m', hoccurs, hstart'⟩ := h'.exists_occurs
    -- its match does not start before the one that was found
    have hle := hsearch.least t m h m' hoccurs
    rw [hstart, hstart'] at hle
    exact length_le_of_byteSize_le hstands.front_prefix h'.front_prefix hle
  · simp [Match.group?, hgroups]

theorem not_stands_of_search (hsearch : search.LeftmostFor pattern)
    (h : search pattern t = none) : ¬ Stands t front address rest := by
  intro hstands
  obtain ⟨m, hoccurs, -⟩ := hstands.exists_occurs
  exact hsearch.missing t h m hoccurs

/-- The text may be cut in front of an address and behind it. -/
theorem Stands.cut?_eq (h : Stands t front address rest) :
    cut? ⟨byteSize front + 2, byteSize front + size⟩ t = some address := by
  have hslice := Text.slice?_append front address rest
  rw [← h.text, h.byteSize_eq] at hslice
  have hroom : 2 ≤ byteSize front + 2 := Nat.le_add_left _ _
  rw [cut?, if_pos hroom]
  exact hslice

theorem findBy?_eq (hsearch : search.LeftmostFor pattern) (t : Text) :
    findBy? search t = some (find? t) := by
  unfold findBy?
  cases hfound : search pattern t with
  | none =>
    have hnone : find? t = none :=
      find?_eq_none_iff.2 fun _ _ _ => not_stands_of_search hsearch hfound
    rw [hnone]
  | some m =>
    obtain ⟨front, address, rest, hfirst, hgroup, -⟩ := standsFirst_of_search hsearch hfound
    simp only [hgroup, hfirst.cut?_eq, hfirst.find?_eq, Option.map_some]

theorem findDelimitedBy?_eq (hsearch : search.LeftmostFor pattern) (t : Text) :
    findDelimitedBy? search t = some (findDelimited? t) := by
  unfold findDelimitedBy?
  cases hfound : search pattern t with
  | none =>
    have hnone : findDelimited? t = none := findDelimited?_eq_none_iff.2 fun _ _ _ hfirst =>
      absurd hfirst.toStands (not_stands_of_search hsearch hfound)
    rw [hnone]
  | some m =>
    obtain ⟨front, address, rest, hfirst, hgroup, hstop⟩ := standsFirst_of_search hsearch hfound
    have hwhole : m.group? 0 = some m.whole := rfl
    simp only [hwhole, hgroup, hstop, hfirst.cut?_eq, hfirst.findDelimited?_eq]
    split <;> rfl

/--
Whoever finds a leftmost match of the pattern finds the first address; the delimited search finds
the same one, unless it is the end of the text, and what it finds is final.
-/
theorem addresses_of_search (search : Searcher) (hsearch : search.LeftmostFor pattern) (t : Text) :
    findBy? search t = some (find? t) ∧
    findDelimitedBy? search t = some (findDelimited? t) ∧
    (∀ address, find? t = some address ↔ ∃ front rest, StandsFirst t front address rest) ∧
    (find? t = none ↔ ∀ front address rest, ¬ Stands t front address rest) ∧
    (∀ address, findDelimited? t = some address ↔
      ∃ front rest, StandsFirst t front address rest ∧ rest ≠ []) ∧
    (findDelimited? t = none ↔
      ∀ front address rest, StandsFirst t front address rest → rest = []) ∧
    ∀ address, findDelimited? t = some address → ∀ u,
      findBy? search (t ++ u) = some (some address) ∧
      findDelimitedBy? search (t ++ u) = some (some address) := by
  refine ⟨findBy?_eq hsearch t, findDelimitedBy?_eq hsearch t, fun _ => find?_eq_some_iff,
    find?_eq_none_iff, fun _ => findDelimited?_eq_some_iff, findDelimited?_eq_none_iff, ?_⟩
  intro address h u
  have hfinal : findDelimited? (t ++ u) = some address := findDelimited?_append u h
  exact ⟨by rw [findBy?_eq hsearch, find?_of_findDelimited? hfinal],
    by rw [findDelimitedBy?_eq hsearch, hfinal]⟩

def hashThenAddress : Text :=
  "0x" ++ List.replicate 64 'a' ++ " 0x" ++ List.replicate 39 'b' ++ "0x"

/-- The hash is passed over, and the address is known before anything else is written. -/
theorem addresses_of_search_hash :
    Searcher.LeftmostFor Pattern.search pattern ∧
    findDelimitedBy? Pattern.search hashThenAddress =
      some (some ("0x" ++ List.replicate 39 'b' ++ "0")) ∧
    ∀ u, findBy? Pattern.search (hashThenAddress ++ u) =
      some (some ("0x" ++ List.replicate 39 'b' ++ "0")) := by
  have hsearch := Pattern.leftmostFor_search pattern
  obtain ⟨-, hdelimited, -, -, -, -, hfinal⟩ :=
    addresses_of_search Pattern.search hsearch hashThenAddress
  have hfound : findDelimited? hashThenAddress = some ("0x" ++ List.replicate 39 'b' ++ "0") := by
    decide +kernel
  exact ⟨hsearch, hdelimited.trans (congrArg some hfound), fun u => (hfinal _ hfound u).1⟩

end Address
end ContractAssist
