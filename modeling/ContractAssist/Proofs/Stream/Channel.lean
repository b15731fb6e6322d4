import ContractAssist.Proofs.Stream.Decoder
import ContractAssist.Proofs.Stream.Reader
import ContractAssist.Stream.Channel

/-!
# Channel — what is sent of a stream, and when reading stops

A reader forwards the text of its reads.  This module says which chunks that are:

1. `received_flatMap_split`: to read through a buffer loses nothing;
2. `forward_staying`: a receiver that stays gets the texts of all pieces and what is owed behind the
   last one, but for the empty ones;
3. `forward_leaving`: a receiver that leaves gets the first of these, and the first text that nobody
   takes is the last one to be read;
4. `forward_eq_deliver`: `Reader.deliver` does just this, with a consumer or without one;
5. `spawn_forwards` puts these together for any stream.
-/

namespace ContractAssist
namespace Reader

open Utf8

/-! ## Reads through a buffer -/

/-- The pieces that are read in front of the end or of a read that fails. -/
def readPieces (reads : List ReadOutcome) : List Bytes :=
  (reads.takeWhile fun outcome => !outcome.isLast).map ReadOutcome.piece

theorem flatten_readPieces (reads : List ReadOutcome) :
    (readPieces reads).flatten = received reads :=
  List.flatMap_def.symm

theorem isLast_or_bytes (outcome : ReadOutcome) :
    outcome.isLast = true ∨ ∃ b piece, outcome = .bytes (b :: piece) := by
  match outcome with
  | .failure => exact .inl rfl
  | .bytes [] => exact .inl rfl
  | .bytes (b :: piece) => exact .inr ⟨b, piece, rfl⟩

theorem readPieces_of_isLast {outcome : ReadOutcome} (h : outcome.isLast = true)
    (later : List ReadOutcome) : readPieces (outcome :: later) = [] := by
  simp [readPieces, h]

theorem readPieces_cons_bytes (b : UInt8) (piece : Bytes) (later : List ReadOutcome) :
    readPieces (.bytes (b :: piece) :: later) = (b :: piece) :: readPieces later := by
  simp [readPieces, ReadOutcome.isLast, ReadOutcome.piece]

theorem flatten_cut (fuel : Nat) (bytes : Bytes) : (cut fuel bytes).flatten = bytes := by
  induction fuel generalizing bytes with
  | zero => exact List.flatten_singleton
  | succ fuel ih =>
    unfold cut
    split
    · exact List.flatten_singleton
    · rw [List.flatten_cons, ih, List.take_append_drop]

/-- Each of the pieces fits into the buffer, and there is something in it. -/
theorem mem_cut {fuel : Nat} {bytes piece : Bytes} (hne : bytes ≠ [])
    (hfuel : bytes.length ≤ (fuel + 1) * bufferSize) (hpiece : piece ∈ cut fuel bytes) :
    piece ≠ [] ∧ piece.length ≤ bufferSize := by
  induction fuel generalizing bytes with
  | zero =>
    obtain rfl := List.mem_singleton.1 hpiece
    exact ⟨hne, by simpa using hfuel⟩
  | succ fuel ih =>
    unfold cut at hpiece
    split at hpiece
    · next hsmall =>
      obtain rfl := List.mem_singleton.1 hpiece
      exact ⟨hne, hsmall⟩
    · next hlarge =>
      rcases List.mem_cons.1 hpiece with rfl | hlater
      · have hlength : (bytes.take bufferSize).length = bufferSize := by
          rw [List.length_take]
          omega
        refine ⟨?_, hlength.le⟩
        intro hnil
        rw [hnil] at hlength
        cases hlength
      · refine ih ?_ ?_ hlater
        · intro hnil
          have hlength := congrArg List.length hnil
          simp only [List.length_drop, List.length_nil] at hlength
          omega
        · rw [List.length_drop]
          have hfuel' : (fuel + 1 + 1) * bufferSize = (fuel + 1) * bufferSize + bufferSize :=
            Nat.succ_mul _ _
          omega

theorem mem_pieces {bytes piece : Bytes} (hne : bytes ≠ []) (hpiece : piece ∈ pieces bytes) :
    piece ≠ [] ∧ piece.length ≤ bufferSize := by
  refine mem_cut hne ?_ hpiece
  rw [Nat.mul_comm]
  exact (Nat.lt_mul_div_succ bytes.length (by decide)).le

theorem received_bytes_append {pieces : List Bytes} (h : ∀ piece ∈ pieces, piece ≠ [])
    (later : List ReadOutcome) :
    received (pieces.map .bytes ++ later) = pieces.flatten ++ received later := by
  induction pieces with
  | nil => rfl
  | cons piece r ih =>
    obtain ⟨b, bytes, rfl⟩ := List.exists_cons_of_ne_nil (h piece List.mem_cons_self)
    rw [List.map_cons, List.cons_append, received_cons_bytes,
      ih (fun piece hpiece => h piece (List.mem_cons_of_mem _ hpiece)), List.flatten_cons,
      List.append_assoc]

/-- What does not fit into the buffer is read in several pieces, and all of it is read. -/
theorem received_flatMap_split (script : List ReadOutcome) :
    received (script.flatMap split) = received script := by
  induction script with
  | nil => rfl
  | cons outcome later ih =>
    match outcome with
    | .failure => rfl
    | .bytes [] => rfl
    | .bytes (b :: piece) =>
      have hpieces : ∀ part ∈ pieces (b :: piece), part ≠ [] := by
        intro part hpart
        exact (mem_pieces (List.cons_ne_nil b piece) hpart).1
      calc
        received ((ReadOutcome.bytes (b :: piece) :: later).flatMap split)
            = received ((pieces (b :: piece)).map .bytes ++ later.flatMap split) := rfl
        _ = (pieces (b :: piece)).flatten ++ received (later.flatMap split) :=
              received_bytes_append hpieces _
        _ = received (.bytes (b :: piece) :: later) := by
              rw [pieces, flatten_cut, ih, received_cons_bytes]

theorem length_piece_le {script : List ReadOutcome} {outcome : ReadOutcome}
    (h : outcome ∈ script.flatMap split) : outcome.piece.length ≤ bufferSize := by
  obtain ⟨larger, -, hmem⟩ := List.mem_flatMap.1 h
  match larger with
  | .failure =>
    obtain rfl := List.mem_singleton.1 hmem
    exact Nat.zero_le _
  | .bytes [] =>
    obtain rfl := List.mem_singleton.1 hmem
    exact Nat.zero_le _
  | .bytes (b :: bytes) =>
    obtain ⟨piece, hpiece, rfl⟩ := List.mem_map.1 hmem
    exact (mem_pieces (List.cons_ne_nil b bytes) hpiece).2

/-! ## What is sent -/

def spoken (texts : List Text) : List Text :=
  texts.filter fun text => !text.isEmpty

theorem spoken_cons_nil (texts : List Text) : spoken ([] :: texts) = spoken texts := rfl

theorem spoken_cons {text : Text} (h : text ≠ []) (texts : List Text) :
    spoken (text :: texts) = text :: spoken texts := by
  obtain ⟨c, r, rfl⟩ := List.exists_cons_of_ne_nil h
  rfl

theorem flatten_spoken (texts : List Text) : (spoken texts).flatten = texts.flatten := by
  induction texts with
  | nil => rfl
  | cons text r ih =>
    by_cases htext : text = []
    · rw [htext, spoken_cons_nil, ih]
      rfl
    · rw [spoken_cons htext, List.flatten_cons, List.flatten_cons, ih]

variable {stream : StreamKind} {d : Decoder} {carry : Carry}

theorem owed_staying (stream : StreamKind) (d : Decoder) :
    owed stream .staying d = (spoken [d.finish]).map (Chunk.mk stream) := by
  cases hrest : d.finish with
  | nil => simp [owed, hrest, spoken]
  | cons c r => simp [owed, hrest, spoken, Receiver.take?]

theorem owed_leaving (stream : StreamKind) (n : Nat) (d : Decoder) :
    owed stream (.leaving n) d = ((spoken [d.finish]).take n).map (Chunk.mk stream) := by
  cases hrest : d.finish with
  | nil => simp [owed, hrest, spoken]
  | cons c r =>
    cases n with
    | zero => simp [owed, hrest, Receiver.take?]
    | succ n => simp [owed, hrest, spoken, Receiver.take?]

theorem forward_of_isLast {outcome : ReadOutcome} (h : outcome.isLast = true)
    (receiver : Receiver) (d : Decoder) (later : List ReadOutcome) :
    forward stream receiver d (outcome :: later) = some (owed stream receiver d, 1) := by
  match outcome with
  | .failure => rfl
  | .bytes [] => rfl
  | .bytes (b :: piece) => cases h

theorem forward_staying (stream : StreamKind) (d : Decoder) (reads : List ReadOutcome) :
    ∃ texts last, d.texts (readPieces reads) = some (texts, last) ∧
      forward stream .staying d reads =
        some ((spoken (texts ++ [last.finish])).map (Chunk.mk stream),
          (readPieces reads).length + 1) := by
  -- by induction on the reads: any but the last one leaves another buffer behind
  induction reads generalizing d with
  | nil =>
    refine ⟨[], d, rfl, ?_⟩
    rw [forward, owed_staying]
    · rfl
    · simp
  | cons outcome later ih =>
    rcases isLast_or_bytes outcome with hlast | ⟨b, piece, rfl⟩
    · rw [readPieces_of_isLast hlast, forward_of_isLast hlast, owed_staying]
      exact ⟨[], d, rfl, rfl⟩
    · obtain ⟨text, next, hdecode⟩ := d.exists_decode (b :: piece)
      obtain ⟨texts, last, htexts, hforward⟩ := ih next
      rw [readPieces_cons_bytes]
      refine ⟨text :: texts, last, ?_, ?_⟩
      · simp [Decoder.texts, hdecode, htexts]
      · by_cases htext : text = []
        · simp [forward, hdecode, hforward, htext, spoken_cons_nil]
        · simp [forward, hdecode, hforward, htext, spoken_cons htext, Receiver.take?]

/-- How it ends if the receiver takes `n` chunks: what is left to be read, and what was sent. -/
inductive Ends (stream : StreamKind) (n : Nat) (texts : List Text) (last : Decoder) :
    List ReadOutcome → List Chunk → Prop where
  -- there is nothing more to read, and what is owed is sent if somebody takes it
  | last {later} (hlater : ∀ outcome ∈ later.head?, outcome.isLast = true) :
      Ends stream n texts last later
        (((spoken (texts ++ [last.finish])).take n).map (Chunk.mk stream))
  -- the next piece has a text, and nobody takes it
  | gone {piece later text next} (hpiece : piece ≠ [])
      (hdecode : last.decode piece = some (text, next)) (htext : text ≠ [])
      (htaken : (spoken texts).length = n) :
      Ends stream n texts last (.bytes piece :: later) ((spoken texts).map (Chunk.mk stream))

section

variable {n : Nat} {texts : List Text} {last : Decoder} {later : List ReadOutcome}
  {chunks : List Chunk}

theorem Ends.cons_nil (h : Ends stream n texts last later chunks) :
    Ends stream n ([] :: texts) last later chunks := by
  cases h with
  | last hlater =>
    have hends : Ends stream n ([] :: texts) last later _ := .last hlater
    exact hends
  | @gone piece later next last' hpiece hdecode hnext htaken =>
    have hends : Ends stream n ([] :: texts) last (.bytes piece :: later) _ :=
      .gone hpiece hdecode hnext htaken
    exact hends

theorem Ends.cons {text : Text} (htext : text ≠ []) (h : Ends stream n texts last later chunks) :
    Ends stream (n + 1) (text :: texts) last later (⟨stream, text⟩ :: chunks) := by
  have hspoken := spoken_cons htext
  cases h with
  | last hlater =>
    have hends : Ends stream (n + 1) (text :: texts) last later _ := .last hlater
    rwa [List.cons_append, hspoken] at hends
  | @gone piece later next last' hpiece hdecode hnext htaken =>
    have hmore : (spoken (text :: texts)).length = n + 1 := by
      rw [hspoken, List.length_cons, htaken]
    have hends : Ends stream (n + 1) (text :: texts) last (.bytes piece :: later) _ :=
      .gone hpiece hdecode hnext hmore
    rwa [hspoken] at hends

end

/-- A receiver that leaves gets the first chunks, and the next text is the last one to be read. -/
theorem forward_leaving (stream : StreamKind) (n : Nat) (d : Decoder) (reads : List ReadOutcome) :
    ∃ heard later texts last chunks, reads = heard ++ later ∧
      (∀ outcome ∈ heard, outcome.isLast = false) ∧
      d.texts (heard.map ReadOutcome.piece) = some (texts, last) ∧ (spoken texts).length ≤ n ∧
      forward stream (.leaving n) d reads = some (chunks, heard.length + 1) ∧
      Ends stream n texts last later chunks := by
  -- by induction on the reads: a text leaves the receiver one chunk less to take, or ends it all
  induction reads generalizing d n with
  | nil =>
    refine ⟨[], [], [], d, _, rfl, by simp, rfl, Nat.zero_le n, ?_, .last (by simp)⟩
    rw [forward, owed_leaving]
    · rfl
    · simp
  | cons outcome later ih =>
    rcases isLast_or_bytes outcome with hlast | ⟨b, piece, rfl⟩
    · refine ⟨[], outcome :: later, [], d, _, rfl, by simp, rfl, Nat.zero_le n, ?_,
        .last (by simpa using hlast)⟩
      rw [forward_of_isLast hlast, owed_leaving]
      rfl
    · obtain ⟨text, next, hdecode⟩ := d.exists_decode (b :: piece)
      by_cases htext : text = []
      · obtain ⟨heard, rest, texts, last, chunks, rfl, hheard, htexts, hlength, hforward, hends⟩ :=
          ih n next
        refine ⟨.bytes (b :: piece) :: heard, rest, [] :: texts, last, chunks, rfl, ?_, ?_, hlength,
          ?_, hends.cons_nil⟩
        · simpa [ReadOutcome.isLast] using hheard
        · simp [Decoder.texts, ReadOutcome.piece, hdecode, htext, htexts]
        · simp [forward, hdecode, hforward, htext]
      · cases n with
        | zero =>
          refine ⟨[], .bytes (b :: piece) :: later, [], d, [], rfl, by simp, rfl, Nat.le_refl 0, ?_,
            .gone (List.cons_ne_nil b piece) hdecode htext rfl⟩
          simp [forward, hdecode, htext, Receiver.take?]
        | succ n =>
          obtain
            ⟨heard, rest, texts, last, chunks, rfl, hheard, htexts, hlength, hforward, hends⟩ :=
            ih n next
          refine ⟨.bytes (b :: piece) :: heard, rest, text :: texts, last, ⟨stream, text⟩ :: chunks,
            rfl, ?_, ?_, ?_, ?_, hends.cons htext⟩
          · simpa [ReadOutcome.isLast] using hheard
          · simp [Decoder.texts, ReadOutcome.piece, hdecode, htexts]
          · rw [spoken_cons htext]
            exact Nat.succ_le_succ hlength
          · simp [forward, hdecode, hforward, htext, Receiver.take?]

/-! ## The reader that keeps bytes in mind -/

variable {receiver : Receiver}

theorem deliver_of_isLast {outcome : ReadOutcome} (h : outcome.isLast = true) (consumer : Bool)
    (carry : Carry) (later : List ReadOutcome) :
    deliver consumer carry (outcome :: later) = deliver consumer carry [] := by
  match outcome with
  | .failure => rfl
  | .bytes [] => rfl
  | .bytes (b :: piece) => cases h

theorem owed_eq_deliver (h : d.Carries carry) (consumer : Bool)
    (hreceiver : receiver.take? = if consumer then some receiver else none) :
    some (owed stream receiver d, 1) =
      some ((deliver consumer carry []).1.map (Chunk.mk stream),
        (deliver consumer carry []).2) := by
  rw [deliver, owed, h.finish_eq_flush, lastChunk, hreceiver]
  · cases consumer with
    | true =>
      cases carry.flush with
      | nil => rfl
      | cons c r => rfl
    | false => simp
  · simp

/-- A receiver that always takes a chunk is a consumer, and one that never does is none. -/
theorem forward_eq_deliver (h : d.Carries carry) (consumer : Bool)
    (hreceiver : receiver.take? = if consumer then some receiver else none)
    (reads : List ReadOutcome) :
    forward stream receiver d reads =
      some ((deliver consumer carry reads).1.map (Chunk.mk stream),
        (deliver consumer carry reads).2) := by
  induction reads generalizing d carry with
  | nil => exact owed_eq_deliver h consumer hreceiver
  | cons outcome later ih =>
    rcases isLast_or_bytes outcome with hlast | ⟨b, piece, rfl⟩
    · rw [forward_of_isLast hlast, deliver_of_isLast hlast]
      exact owed_eq_deliver h consumer hreceiver
    · obtain ⟨next, hdecode, -, hnext⟩ := h.decode_eq_feed (b :: piece)
      have hlater := ih hnext
      by_cases htext : (carry.feed (b :: piece)).2 = []
      · simp [forward, deliver, hdecode, htext, hlater]
      · cases consumer with
        | true => simp [forward, deliver, hdecode, htext, hlater, hreceiver]
        | false => simp [forward, deliver, hdecode, htext, hreceiver]

/-- A receiver that is gone gets nothing, and the first text is the last one to be read. -/
theorem forward_gone (stream : StreamKind) (h : d.Carries carry) (reads : List ReadOutcome) :
    ∃ silent later texts last, reads = silent ++ later ∧
      (∀ outcome ∈ silent, outcome.isLast = false) ∧
      d.texts (silent.map ReadOutcome.piece) = some (texts, last) ∧ (∀ text ∈ texts, text = []) ∧
      (∀ outcome ∈ later.head?, outcome.isLast = true ∨
        ∃ text next, last.decode outcome.piece = some (text, next) ∧ text ≠ []) ∧
      forward stream (.leaving 0) d reads = some ([], silent.length + 1) ∧
      deliver false carry reads = ([], silent.length + 1) := by
  obtain ⟨silent, later, texts, last, chunks, rfl, hsilent, htexts, hlength, hforward, hends⟩ :=
    forward_leaving stream 0 d reads
  have hquiet : spoken texts = [] := List.length_eq_zero_iff.1 (Nat.le_zero.1 hlength)
  have hchunks : chunks = [] := by
    cases hends with
    | last => rfl
    | gone => rw [hquiet, List.map_nil]
  refine ⟨silent, later, texts, last, rfl, hsilent, htexts, ?_, ?_, hchunks ▸ hforward, ?_⟩
  · intro text htext
    simpa using List.filter_eq_nil_iff.1 hquiet text htext
  · cases hends with
    | last hlater => exact fun outcome houtcome => .inl (hlater outcome houtcome)
    | gone hpiece hdecode htext =>
      rintro outcome ⟨⟩
      exact .inr ⟨_, _, hdecode, htext⟩
  · have hdeliver := hforward.symm.trans (forward_eq_deliver h false rfl _)
    obtain ⟨hnone, hcount⟩ := Prod.mk.inj (Option.some.inj hdeliver)
    rw [hchunks] at hnone
    exact Prod.ext (List.map_eq_nil_iff.1 hnone.symm) hcount.symm

/-! ## From the beginning of a stream -/

/-- The chunks of a stream whose receiver stays, and the number of reads. -/
structure Forwards (stream : StreamKind) (script : List ReadOutcome) (chunks : List Chunk)
    (count : Nat) : Prop where
  tagged : ∀ chunk ∈ chunks, chunk.stream = stream
  nonempty : ∀ chunk ∈ chunks, chunk.text ≠ []
  -- they are the text of the bytes in front of the end, or of a read that fails
  decodes : Decodes (received script) (chunks.flatMap Chunk.text)
  -- a text is sent with the read that settles it, and what is owed behind the last read
  flushed : ∃ texts last,
    Decoder.texts ⟨[]⟩ (readPieces (script.flatMap split)) = some (texts, last) ∧
      chunks.map Chunk.text = spoken (texts ++ [last.finish])
  -- there is no read behind the one that found the end, or failed
  count_eq : count = (readPieces (script.flatMap split)).length + 1

theorem forwards_of_texts {script : List ReadOutcome} {texts : List Text} {last : Decoder}
    (htexts : Decoder.texts ⟨[]⟩ (readPieces (script.flatMap split)) = some (texts, last)) :
    Forwards stream script ((spoken (texts ++ [last.finish])).map (Chunk.mk stream))
      ((readPieces (script.flatMap split)).length + 1) := by
  have hmap : ((spoken (texts ++ [last.finish])).map (Chunk.mk stream)).map Chunk.text =
      spoken (texts ++ [last.finish]) := by
    rw [List.map_map]
    exact List.map_id _
  refine ⟨?_, ?_, ?_, ⟨texts, last, htexts, hmap⟩, rfl⟩
  · intro chunk hchunk
    obtain ⟨text, -, rfl⟩ := List.mem_map.1 hchunk
    rfl
  · intro chunk hchunk
    obtain ⟨text, htext, rfl⟩ := List.mem_map.1 hchunk
    simpa using (List.mem_filter.1 htext).2
  · have hempty : Decoder.Carries ⟨[]⟩ none := rfl
    obtain ⟨last', htexts', -, hlast⟩ := hempty.texts_eq (readPieces (script.flatMap split))
    obtain ⟨rfl, rfl⟩ := Prod.mk.inj (Option.some.inj (htexts.symm.trans htexts'))
    obtain ⟨hcarry, hflatten⟩ := Carry.feeds_flatten none (readPieces (script.flatMap split))
    rw [flatten_readPieces, received_flatMap_split] at hcarry hflatten
    rw [decodes_iff, List.flatMap_def, hmap, flatten_spoken, List.flatten_append, hflatten,
      List.flatten_singleton, hlast.finish_eq_flush, hcarry, lossy_eq]

/--
What is read of a stream through a buffer is sent as the text of its bytes, in chunks that are not
empty and bear its name; when the receiver leaves, the next text is the last one to be read.
-/
theorem spawn_forwards (stream : StreamKind) (script : List ReadOutcome) :
    (∀ outcome ∈ script.flatMap split, outcome.piece.length ≤ bufferSize) ∧
    (∃ chunks count, spawn stream .staying (some script) = some (chunks, count) ∧
      deliver true none (script.flatMap split) = (chunks.map Chunk.text, count) ∧
      Forwards stream script chunks count ∧
      chunks.flatMap Chunk.text = lossy (received script)) ∧
    (∀ n, ∃ heard later texts last chunks, script.flatMap split = heard ++ later ∧
      (∀ outcome ∈ heard, outcome.isLast = false) ∧
      Decoder.texts ⟨[]⟩ (heard.map ReadOutcome.piece) = some (texts, last) ∧
      (spoken texts).length ≤ n ∧
      spawn stream (.leaving n) (some script) = some (chunks, heard.length + 1) ∧
      Ends stream n texts last later chunks) ∧
    ∃ silent later texts last, script.flatMap split = silent ++ later ∧
      (∀ outcome ∈ silent, outcome.isLast = false) ∧
      Decoder.texts ⟨[]⟩ (silent.map ReadOutcome.piece) = some (texts, last) ∧
      (∀ text ∈ texts, text = []) ∧
      (∀ outcome ∈ later.head?, outcome.isLast = true ∨
        ∃ text next, last.decode outcome.piece = some (text, next) ∧ text ≠ []) ∧
      spawn stream (.leaving 0) (some script) = some ([], silent.length + 1) ∧
      deliver false none (script.flatMap split) = ([], silent.length + 1) := by
  have hempty : Decoder.Carries ⟨[]⟩ none := rfl
  refine ⟨fun outcome => length_piece_le, ?_, fun n => forward_leaving stream n ⟨[]⟩ _,
    forward_gone stream hempty _⟩
  obtain ⟨texts, last, htexts, hforward⟩ := forward_staying stream ⟨[]⟩ (script.flatMap split)
  have hforwards : Forwards stream script _ _ := forwards_of_texts htexts
  refine ⟨_, _, hforward, ?_, hforwards, decodes_iff.1 hforwards.decodes⟩
  have hdeliver := hforward.symm.trans (forward_eq_deliver hempty true rfl _)
  obtain ⟨hchunks, hcount⟩ := Prod.mk.inj (Option.some.inj hdeliver)
  rw [hchunks, hcount, List.map_map]
  exact Prod.ext (List.map_id _).symm rfl

end Reader
end ContractAssist
