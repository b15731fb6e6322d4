import ContractAssist.Proofs.Text.Basic
import ContractAssist.Text.Pattern

/-!
# Text.Pattern — every way to match is tried

1. `matches_one_iff`, `matches_times_one_iff` and the like say what a pattern matches by its
   constructors;
2. `mem_ways_iff`: the ways that are tried are the matches at a place, by one lemma for each way to
   build a matcher;
3. `occurs_cons_iff` moves an occurrence along the text, and `leftmostFor_search` follows: the
   searcher finds a leftmost match of any pattern.
-/

namespace ContractAssist
namespace Text
namespace Pattern

variable {p q : Pattern} {accepts : Char → Bool} {start stop n : Nat} {t rest : Text}
variable {groups : Groups}

/-! ## What matches, by the pattern -/

theorem matches_one_iff : (one accepts).Matches start t stop rest groups ↔
    ∃ c, accepts c = true ∧ t = c :: rest ∧ stop = start + c.utf8Size ∧ groups = [] := by
  constructor
  · intro h
    cases h with
    | one hc => exact ⟨_, hc, rfl, rfl, rfl⟩
  · rintro ⟨c, hc, rfl, rfl, rfl⟩
    exact .one hc

theorem matches_atEnd_iff : atEnd.Matches start t stop rest groups ↔
    t = [] ∧ stop = start ∧ rest = [] ∧ groups = [] := by
  constructor
  · intro h
    cases h with
    | atEnd => exact ⟨rfl, rfl, rfl, rfl⟩
  · rintro ⟨rfl, rfl, rfl, rfl⟩
    exact .atEnd

theorem matches_seq_iff : (seq p q).Matches start t stop rest groups ↔
    ∃ middle between first later, p.Matches start t middle between first ∧
      q.Matches middle between stop rest later ∧ groups = first ++ later := by
  constructor
  · intro h
    cases h with
    | seq hfirst hlater => exact ⟨_, _, _, _, hfirst, hlater, rfl⟩
  · rintro ⟨_, _, _, _, hfirst, hlater, rfl⟩
    exact .seq hfirst hlater

theorem matches_either_iff : (either p q).Matches start t stop rest groups ↔
    p.Matches start t stop rest groups ∨ q.Matches start t stop rest groups := by
  constructor
  · intro h
    cases h with
    | left h => exact .inl h
    | right h => exact .inr h
  · rintro (h | h)
    · exact .left h
    · exact .right h

theorem matches_group_iff {number : Nat} :
    (group number p).Matches start t stop rest groups ↔
      ∃ inner, p.Matches start t stop rest inner ∧ groups = (number, ⟨start, stop⟩) :: inner := by
  constructor
  · intro h
    cases h with
    | group h => exact ⟨_, h, rfl⟩
  · rintro ⟨inner, h, rfl⟩
    exact .group h

theorem matches_zero_iff : (times 0 p).Matches start t stop rest groups ↔
    stop = start ∧ rest = t ∧ groups = [] := by
  constructor
  · intro h
    cases h with
    | zero => exact ⟨rfl, rfl, rfl⟩
  · rintro ⟨rfl, rfl, rfl⟩
    exact .zero

theorem matches_succ_iff : (times (n + 1) p).Matches start t stop rest groups ↔
    ∃ middle between first later, p.Matches start t middle between first ∧
      (times n p).Matches middle between stop rest later ∧ groups = first ++ later := by
  constructor
  · intro h
    cases h with
    | succ hfirst hlater => exact ⟨_, _, _, _, hfirst, hlater, rfl⟩
  · rintro ⟨_, _, _, _, hfirst, hlater, rfl⟩
    exact .succ hfirst hlater

/-- So many characters of a class, one behind the other. -/
theorem matches_times_one_iff : (times n (one accepts)).Matches start t stop rest groups ↔
    ∃ part, t = part ++ rest ∧ part.length = n ∧ (∀ c ∈ part, accepts c = true) ∧
      stop = start + byteSize part ∧ groups = [] := by
  -- by induction on the number, wherever the first of the characters stands
  induction n generalizing start t groups with
  | zero =>
    rw [matches_zero_iff]
    constructor
    · rintro ⟨rfl, rfl, rfl⟩
      exact ⟨[], rfl, rfl, by simp, rfl, rfl⟩
    · rintro ⟨part, rfl, hlength, -, rfl, rfl⟩
      obtain rfl : part = [] := List.eq_nil_of_length_eq_zero hlength
      exact ⟨rfl, rfl, rfl⟩
  | succ n ih =>
    rw [matches_succ_iff]
    constructor
    · rintro ⟨middle, between, first, later, hfirst, hlater, rfl⟩
      obtain ⟨c, hc, rfl, rfl, rfl⟩ := matches_one_iff.1 hfirst
      obtain ⟨part, rfl, rfl, hpart, rfl, rfl⟩ := ih.1 hlater
      refine ⟨c :: part, rfl, rfl, List.forall_mem_cons.2 ⟨hc, hpart⟩, ?_, rfl⟩
      rw [byteSize_cons, Nat.add_assoc]
    · rintro ⟨part, rfl, hlength, hpart, rfl, rfl⟩
      obtain ⟨c, others, rfl⟩ := List.exists_cons_of_length_eq_add_one hlength
      obtain ⟨hc, hothers⟩ := List.forall_mem_cons.1 hpart
      have hsize : start + byteSize (c :: others) = start + c.utf8Size + byteSize others := by
        rw [byteSize_cons, Nat.add_assoc]
      have hlater := ih.2 ⟨others, rfl, by simpa using hlength, hothers, hsize, rfl⟩
      exact ⟨_, _, [], [], .one hc, hlater, rfl⟩

/-! ## Ways -/

/-- A matcher tries just the ways in which a pattern matches. -/
def TriedBy (p : Pattern) (m : Matcher) : Prop :=
  ∀ start t way, way ∈ m start t ↔ p.Matches start t way.stop way.rest way.groups

theorem triedBy_one : (one accepts).TriedBy (.one accepts) := by
  rintro start t ⟨stop, rest, groups⟩
  rw [matches_one_iff]
  cases t with
  | nil => simp [Matcher.one]
  | cons c r =>
    constructor
    · intro h
      by_cases hc : accepts c = true
      · rw [Matcher.one, if_pos hc, List.mem_singleton] at h
        obtain ⟨rfl, rfl, rfl⟩ := Way.mk.inj h
        exact ⟨c, hc, rfl, rfl, rfl⟩
      · rw [Matcher.one, if_neg hc] at h
        exact absurd h List.not_mem_nil
    · rintro ⟨d, hd, heq, rfl, rfl⟩
      obtain ⟨rfl, rfl⟩ := List.cons.inj heq
      rw [Matcher.one, if_pos hd, List.mem_singleton]

/-- What is tried one behind the other. -/
theorem mem_andThen_iff {first later : Matcher} {way : Way} :
    way ∈ first.andThen later start t ↔ ∃ before ∈ first start t,
      ∃ next ∈ later before.stop before.rest, way =
        ⟨next.stop, next.rest, before.groups ++ next.groups⟩ := by
  simp only [Matcher.andThen, List.mem_flatMap, List.mem_map, eq_comm]

theorem TriedBy.andThen {first later : Matcher} (hp : p.TriedBy first) (hq : q.TriedBy later) :
    (seq p q).TriedBy (first.andThen later) := by
  intro start t way
  rw [mem_andThen_iff, matches_seq_iff]
  constructor
  · rintro ⟨before, hbefore, next, hnext, rfl⟩
    exact ⟨_, _, _, _, (hp _ _ before).1 hbefore, (hq _ _ next).1 hnext, rfl⟩
  · rintro ⟨middle, between, before, next, hbefore, hnext, hgroups⟩
    refine ⟨⟨middle, between, before⟩, (hp _ _ _).2 hbefore, ⟨way.stop, way.rest, next⟩,
      (hq _ _ _).2 hnext, ?_⟩
    rw [← hgroups]

theorem TriedBy.repeated {part : Matcher} (hp : p.TriedBy part) (n : Nat) :
    (times n p).TriedBy (part.repeated n) := by
  induction n with
  | zero =>
    rintro start t ⟨stop, rest, groups⟩
    simp [Matcher.repeated, matches_zero_iff]
  | succ n ih =>
    intro start t way
    -- one part more is one part in front of the others
    rw [matches_succ_iff, ← matches_seq_iff]
    exact hp.andThen ih start t way

/-- The ways that are tried are the matches at a place. -/
theorem triedBy_ways (p : Pattern) : p.TriedBy p.ways := by
  induction p with
  | one accepts => exact triedBy_one
  | times n p ih => exact ih.repeated n
  | seq p q hp hq => exact hp.andThen hq
  | either p q hp hq =>
    intro start t way
    rw [ways, List.mem_append, matches_either_iff, hp, hq]
  | group number p ih =>
    rintro start t ⟨stop, rest, groups⟩
    rw [ways, List.mem_map, matches_group_iff]
    constructor
    · rintro ⟨way, hway, heq⟩
      obtain ⟨rfl, rfl, rfl⟩ := Way.mk.inj heq
      exact ⟨_, (ih _ _ way).1 hway, rfl⟩
    · rintro ⟨inner, hinner, hgroups⟩
      exact ⟨⟨stop, rest, inner⟩, (ih _ _ _).2 hinner, congrArg (Way.mk stop rest) hgroups.symm⟩
  | atEnd =>
    rintro start t ⟨stop, rest, groups⟩
    rw [matches_atEnd_iff]
    cases t <;> simp [ways]

/-! ## Places -/

def OccursFrom (p : Pattern) (offset : Nat) (t : Text) (m : Match) : Prop :=
  ∃ front behind rest, t = front ++ behind ∧ m.whole.start = offset + byteSize front ∧
    p.Matches m.whole.start behind m.whole.stop rest m.groups

theorem occurs_iff {m : Match} : p.Occurs t m ↔ p.OccursFrom 0 t m := by
  simp only [Occurs, OccursFrom, Nat.zero_add]

theorem occursFrom_of_matches {m : Match} (h : p.Matches start t m.whole.stop rest m.groups)
    (hstart : m.whole.start = start) : p.OccursFrom start t m :=
  ⟨[], t, rest, rfl, hstart, hstart ▸ h⟩

theorem occursFrom_nil_iff {m : Match} : p.OccursFrom start [] m ↔
    m.whole.start = start ∧ ∃ rest, p.Matches start [] m.whole.stop rest m.groups := by
  constructor
  · rintro ⟨front, behind, rest, heq, hstart, h⟩
    obtain ⟨rfl, rfl⟩ := List.append_eq_nil_iff.1 heq.symm
    obtain hstart : m.whole.start = start := hstart
    exact ⟨hstart, rest, hstart ▸ h⟩
  · rintro ⟨hstart, rest, h⟩
    exact occursFrom_of_matches h hstart

/-- A match starts with the first character, or behind it. -/
theorem occursFrom_cons_iff {c : Char} {m : Match} : p.OccursFrom start (c :: t) m ↔
    (m.whole.start = start ∧ ∃ rest, p.Matches start (c :: t) m.whole.stop rest m.groups) ∨
      p.OccursFrom (start + c.utf8Size) t m := by
  constructor
  · rintro ⟨front, behind, rest, heq, hstart, h⟩
    cases front with
    | nil =>
      obtain rfl : c :: t = behind := heq
      obtain hstart : m.whole.start = start := hstart
      exact .inl ⟨hstart, rest, hstart ▸ h⟩
    | cons d front =>
      obtain ⟨rfl, rfl⟩ := List.cons.inj heq
      rw [byteSize_cons, ← Nat.add_assoc] at hstart
      exact .inr ⟨front, behind, rest, rfl, hstart, h⟩
  · rintro (⟨hstart, rest, h⟩ | ⟨front, behind, rest, rfl, hstart, h⟩)
    · exact occursFrom_of_matches h hstart
    · refine ⟨c :: front, behind, rest, rfl, ?_, h⟩
      rw [hstart, byteSize_cons, Nat.add_assoc]

theorem OccursFrom.le {m : Match} (h : p.OccursFrom start t m) : start ≤ m.whole.start := by
  obtain ⟨front, _, _, _, hstart, _⟩ := h
  rw [hstart]
  exact Nat.le_add_right _ _

/-! ## The search -/

theorem of_matchHere? {m : Match} (h : p.matchHere? start t = some m) :
    m.whole.start = start ∧ ∃ rest, p.Matches start t m.whole.stop rest m.groups := by
  obtain ⟨way, hway, rfl⟩ := Option.map_eq_some_iff.1 h
  exact ⟨rfl, way.rest, (triedBy_ways p _ _ way).1 (List.mem_of_mem_head? hway)⟩

theorem not_matches_of_matchHere? (h : p.matchHere? start t = none) :
    ¬ p.Matches start t stop rest groups := by
  intro hmatches
  have hnone : p.ways start t = [] := List.head?_eq_none_iff.1 (Option.map_eq_none_iff.1 h)
  have hmem := (triedBy_ways p start t ⟨stop, rest, groups⟩).2 hmatches
  rw [hnone] at hmem
  exact List.not_mem_nil hmem

inductive Finds (p : Pattern) (offset : Nat) (t : Text) : Option Match → Prop where
  | leftmost {m} (h : p.OccursFrom offset t m)
      (hleast : ∀ m', p.OccursFrom offset t m' → m.whole.start ≤ m'.whole.start) :
      Finds p offset t (some m)
  | missing (h : ∀ m, ¬ p.OccursFrom offset t m) : Finds p offset t none

theorem finds_here {m : Match} (h : p.matchHere? start t = some m) :
    p.Finds start t (some m) := by
  obtain ⟨hstart, rest, hmatches⟩ := of_matchHere? h
  -- every match in the text starts here or later
  exact .leftmost (occursFrom_of_matches hmatches hstart) fun m' hm' => hstart ▸ hm'.le

theorem finds_searchFrom? (p : Pattern) (start : Nat) (t : Text) :
    p.Finds start t (p.searchFrom? start t) := by
  -- by induction on the text that is left, with the offset of its first character
  induction t generalizing start with
  | nil =>
    rw [searchFrom?]
    cases hhere : p.matchHere? start [] with
    | some m => exact finds_here hhere
    | none =>
      refine .missing fun m hm => ?_
      obtain ⟨-, rest, hmatches⟩ := occursFrom_nil_iff.1 hm
      exact not_matches_of_matchHere? hhere hmatches
  | cons c r ih =>
    rw [searchFrom?]
    cases hhere : p.matchHere? start (c :: r) with
    | some m => exact finds_here hhere
    | none =>
      -- no match starts here, so that those behind the first character are all there are
      have hlater : ∀ m, p.OccursFrom start (c :: r) m ↔
          p.OccursFrom (start + c.utf8Size) r m := by
        intro m
        rw [occursFrom_cons_iff, or_iff_right]
        rintro ⟨-, rest, hmatches⟩
        exact not_matches_of_matchHere? hhere hmatches
      rw [Option.none_or]
      cases hfound : p.searchFrom? (start + c.utf8Size) r with
      | none =>
        cases hfound ▸ ih (start + c.utf8Size) with
        | missing h => exact .missing fun m hm => h m ((hlater m).1 hm)
      | some m =>
        cases hfound ▸ ih (start + c.utf8Size) with
        | leftmost h hleast =>
          exact .leftmost ((hlater m).2 h) fun m' hm' => hleast m' ((hlater m').1 hm')

/-- Every way to match being tried at every place, a leftmost match is found. -/
theorem leftmostFor_search (p : Pattern) : Searcher.LeftmostFor search p := by
  have hfinds : ∀ t, p.Finds 0 t (search p t) := p.finds_searchFrom? 0
  refine ⟨?_, ?_, ?_⟩
  · intro t m hm
    cases hm ▸ hfinds t with
    | leftmost h _ => exact occurs_iff.2 h
  · intro t m hm m' hm'
    cases hm ▸ hfinds t with
    | leftmost _ hleast => exact hleast m' (occurs_iff.1 hm')
  · intro t hnone m hm
    cases hnone ▸ hfinds t with
    | missing h => exact h m (occurs_iff.1 hm)

end Pattern
end Text
end ContractAssist
