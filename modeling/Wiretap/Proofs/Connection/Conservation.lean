import Wiretap.Proofs.Connection.Usage
import Wiretap.Proofs.Transport.Peered

/-!
# A connection conserves what travels through it

However the owner of a connection reads and writes it before the stream is handed over, nothing is
lost, repeated or overtaken on the way: what the operations have read, what was read ahead, and what
was read directly make up what the peer sends, and the peer is given what the operations have written
and then what was written directly (`Usage.handOver_conserves`).

While the stream is attached, the two buffers are part of its traffic: what is read ahead is still
to come, and what is held back has been given (`behind`).  Attempts move bytes along that, and
handing over empties the one buffer and gives away the other (`Usage.handingOver_conserves`).
-/

namespace Wiretap.Connection

set_option autoImplicit false

open Transport (BufferedSink BufferedSource ByteSink ByteSource ByteStream LawfulSink LawfulSource
  LawfulStream Peered ReadBuffer Traffic WriteBuffer traffic)
open Transport.BufferedSource (Took)

variable {σ : Type} [ByteStream σ]

/-! ## What is conserved -/

/-- Between one traffic and another some bytes have been taken and some have been given. -/
structure Shifts (before after : Traffic) (taken given : Bytes) : Prop where
  coming : before.coming = taken ++ after.coming
  given : after.given = before.given ++ given
  passed : before.passed <+: after.passed

section

variable {first second third : Traffic}

theorem Shifts.trans {taken given more further : Bytes} (before : Shifts first second taken given)
    (after : Shifts second third more further) :
    Shifts first third (taken ++ more) (given ++ further) where
  coming := by rw [before.coming, after.coming, List.append_assoc]
  given := by rw [after.given, before.given, List.append_assoc]
  passed := before.passed.trans after.passed

theorem Shifts.take {taken given piece : Bytes} (before : Shifts first second taken given)
    (after : Shifts second third piece []) : Shifts first third (taken ++ piece) given := by
  simpa only [List.append_nil] using before.trans after

theorem Shifts.give {taken given more : Bytes} (before : Shifts first second taken given)
    (after : Shifts second third [] more) : Shifts first third taken (given ++ more) := by
  simpa only [List.append_nil] using before.trans after

theorem shifts_of_read {piece rest : Bytes} (split : first.coming = piece ++ rest)
    (rests : (first.read piece rest).Rests second) : Shifts first second piece [] where
  coming := split.trans (congrArg (piece ++ ·) rests.2.1.symm)
  given := rests.2.2.1.trans (List.append_nil _).symm
  passed := rests.2.2.2

theorem shifts_of_write {data : Bytes} (rests : (first.write data).Rests second) :
    Shifts first second [] data where
  coming := rests.2.1.symm
  given := rests.2.2.1
  passed := rests.2.2.2

theorem shifts_of_rests (rests : first.Rests second) : Shifts first second [] [] :=
  shifts_of_write (by rwa [Traffic.write_nil])

theorem Shifts.rests {taken given : Bytes} (before : Shifts first second taken given)
    (rests : second.Rests third) : Shifts first third taken given := by
  simpa only [List.append_nil] using before.trans (shifts_of_rests rests)

end

/-- The traffic of a stream behind its buffers: what is read ahead is still to come, and what is
held back has been given. -/
def behind (s : σ) (r : ReadBuffer) (w : WriteBuffer) : Traffic where
  coming := (⟨r, s⟩ : BufferedSource σ).unread
  given := (traffic s).given ++ w.pending
  passed := (traffic s).passed

section

variable {s : σ} {r : ReadBuffer} {w : WriteBuffer}

theorem shifts_of_took {after : BufferedSource σ} {piece : Bytes} (took : Took ⟨r, s⟩ after piece) :
    Shifts (behind s r w) (behind after.source after.buffer w) piece [] where
  coming := took.unread
  given := (congrArg (· ++ w.pending) took.given).trans (List.append_nil _).symm
  passed := took.passed

theorem shifts_of_wrote {after : BufferedSink σ} {more : Bytes}
    (rests : ((traffic (⟨w, s⟩ : BufferedSink σ)).write more).Rests (traffic after)) :
    Shifts (behind s r w) (behind after.sink r after.buffer) [] more where
  coming := congrArg (r.held ++ ·) rests.2.1.symm
  given := rests.2.2.1
  passed := rests.2.2.2

/-- What rests by itself rests behind the buffers. -/
theorem behind_rests {s' : σ} (rests : (traffic s).Rests (traffic s')) :
    (behind s r w).Rests (behind s' r w) :=
  ⟨rfl, congrArg (r.held ++ ·) rests.2.1, congrArg (· ++ w.pending) rests.2.2.1, rests.2.2.2⟩

end

namespace Activity

/-- What the operation under way has read so far. -/
def collected : Activity → Bytes
  | reading _ p => p.bytes
  | _ => []

/-- The operation under way has written some bytes so far. -/
def HasSent (sent : Bytes) : Activity → Prop
  | writing o rest => o.due = sent ++ rest
  | _ => sent = []

end Activity

/-- What is known of a stream that has been handed over. -/
structure Raw.Conserves (opening : Traffic) (read written : Bytes) (r : Raw σ) : Prop where
  shifts : Shifts opening (traffic r.stream) (read ++ r.ahead ++ r.took) (written ++ r.wrote)
  ended : r.ended → (traffic r.stream).coming = []
  /-- What was written through the buffer has been passed on. -/
  passed : opening.given ++ written <+: (traffic r.stream).passed
  flushed : r.flushed → opening.given ++ (written ++ r.wrote) <+: (traffic r.stream).passed

/-- What is known of a stream that is attached. -/
def Attached (opening : Traffic) (read written : Bytes) (c : Connection σ) (a : Activity) : Prop :=
  ∃ s r w sent, c.link = .attached s r w ∧ a.HasSent sent ∧
    Shifts opening (behind s r w) (read ++ a.collected) (written ++ sent)

section

variable {opening : Traffic} {read written : Bytes} {c : Connection σ} {s : σ} {r : ReadBuffer}
  {w : WriteBuffer}

theorem attached_of_shifts {a : Activity} (link : c.link = .attached s r w)
    (collected : a.collected = []) (sent : a.HasSent [])
    (shifts : Shifts opening (behind s r w) read written) : Attached opening read written c a :=
  ⟨s, r, w, [], link, sent, by rwa [collected, List.append_nil, List.append_nil]⟩

/-- Between operations all that was moved is known. -/
theorem Attached.at_rest (known : Attached opening read written c .idle) :
    ∃ s r w, c.link = .attached s r w ∧ Shifts opening (behind s r w) read written := by
  obtain ⟨s, r, w, _, link, rfl, shifts⟩ := known
  refine ⟨s, r, w, link, ?_⟩
  rw [← List.append_nil read, ← List.append_nil written]
  exact shifts

/-- A stream whose write buffer is empty and flushed is given away with what was read ahead. -/
theorem raw_conserves_of_flushed (empty : w.pending = [])
    (passed : (traffic (BufferedSink.mk w s)).passed = (traffic (BufferedSink.mk w s)).given)
    (shifts : Shifts opening (behind s r w) read written) :
    ({ stream := s, ahead := r.held } : Raw σ).Conserves opening read written := by
  have given : (traffic s).given = opening.given ++ written := by
    rw [← shifts.given, behind, empty, List.append_nil]
  rw [BufferedSink.traffic_of_empty empty] at passed
  have all : opening.given ++ written <+: (traffic s).passed :=
    (given.symm.trans passed.symm) ▸ List.prefix_refl _
  refine ⟨⟨?_, ?_, shifts.passed⟩, nofun, all, fun _ => ?_⟩
  · rw [List.append_nil, List.append_assoc]
    exact shifts.coming
  · rw [List.append_nil]
    exact given
  · rwa [List.append_nil]

end

/-! ## A stream that has been handed over -/

namespace Raw.Conserves

variable {opening : Traffic} {before written : Bytes} {r : Raw σ}

/-- Attempts that move nothing, and what the peer does. -/
theorem rests {stream : σ} (known : r.Conserves opening before written)
    (rests : (traffic r.stream).Rests (traffic stream)) :
    ({ r with stream } : Raw σ).Conserves opening before written where
  shifts := known.shifts.rests rests
  ended all := rests.2.1.trans (known.ended all)
  passed := known.passed.trans rests.2.2.2
  flushed all := (known.flushed all).trans rests.2.2.2

variable [LawfulStream σ]

theorem read (n : Nat) (known : r.Conserves opening before written) :
    (r.read n).Conserves opening before written := by
  have takes := LawfulSource.read_takes n r.stream
  rw [Raw.read]
  generalize ByteSource.read n r.stream = x at takes
  obtain ⟨outcome, stream⟩ := x
  cases outcome with
  | done piece =>
    obtain ⟨⟨rest, split, moved⟩, _, last⟩ := takes
    have shifts := known.shifts.take (shifts_of_read split moved)
    rw [List.append_assoc _ r.took] at shifts
    refine ⟨shifts, fun all => moved.2.1.trans ?_, known.passed.trans moved.2.2.2,
      fun all => (known.flushed all).trans moved.2.2.2⟩
    have none : (traffic r.stream).coming = [] := by
      obtain before | now := Bool.or_eq_true_iff.mp all
      · exact known.ended before
      · obtain ⟨some_bytes, empty⟩ := Bool.and_eq_true_iff.mp now
        exact last (of_decide_eq_true some_bytes) (List.isEmpty_iff.mp empty)
    exact (List.append_eq_nil_iff.mp (split.symm.trans none)).2
  | failed e => exact known.rests takes
  | blocked => exact known.rests takes

theorem write (data : Bytes) (known : r.Conserves opening before written) :
    (r.write data).Conserves opening before written := by
  have gives := LawfulSink.write_gives data r.stream
  rw [Raw.write]
  generalize ByteSink.write data r.stream = x at gives
  obtain ⟨outcome, stream⟩ := x
  cases outcome with
  | done n =>
    obtain ⟨_, moved⟩ := gives
    have shifts := known.shifts.give (shifts_of_write moved)
    rw [List.append_assoc written] at shifts
    exact ⟨shifts, fun all => moved.2.1.trans (known.ended all), known.passed.trans moved.2.2.2,
      nofun⟩
  | failed e => exact known.rests gives
  | blocked => exact known.rests gives

theorem flush (known : r.Conserves opening before written) :
    r.flush.Conserves opening before written := by
  have rests := LawfulSink.flush_rests r.stream
  have done := LawfulSink.flush_done r.stream
  rw [Raw.flush]
  generalize ByteSink.flush r.stream = x at rests done
  obtain ⟨outcome, stream⟩ := x
  have still := known.rests rests
  cases outcome with
  | done =>
    refine ⟨still.shifts, still.ended, still.passed, fun _ => ?_⟩
    have all : (traffic stream).passed = (traffic stream).given := done rfl
    exact still.shifts.given ▸ all ▸ List.prefix_refl _
  | failed e => exact still
  | blocked => exact still

theorem step {act : Act σ} {r' : Raw σ} (known : r.Conserves opening before written)
    (stepped : r.step act = some r') : r'.Conserves opening before written := by
  cases act with
  | peer f =>
    obtain ⟨rests, ⟨⟩⟩ := Option.ite_none_right_eq_some.mp stepped
    exact known.rests rests
  | rawRead n =>
    cases stepped
    exact known.read n
  | rawWrite data =>
    cases stepped
    exact known.write data
  | rawFlush =>
    cases stepped
    exact known.flush
  | read | write | handOver | goOn => cases stepped

end Raw.Conserves

namespace Usage

/-- What is known of the use of a stream, wherever the stream is. -/
def Conserves (opening : Traffic) (u : Usage σ) : Prop :=
  match u.place with
  | .attached c a => Attached opening u.read u.written c a
  | .raw r => r.Conserves opening u.read u.written

variable [LawfulStream σ] {opening : Traffic} {u u' : Usage σ} {c : Connection σ}

/-! ## Attempts -/

theorem reading_conserves {i : Intake} {p : Intake.Progress}
    (known : Attached opening u.read u.written c (.reading i p))
    (went : u.goOn c (.reading i p) = some u') : u'.Conserves opening := by
  obtain ⟨s, r, w, _, link, rfl, shifts⟩ := known
  obtain ⟨piece, took, bytes⟩ := i.attempt_took p ⟨r, s⟩
  rw [goOn, Connection.reading, link] at went
  dsimp only at went
  generalize i.attempt p ⟨r, s⟩ = x at took bytes went
  obtain ⟨⟨outcome, p'⟩, after⟩ := x
  have further : Shifts opening (behind after.source after.buffer w) (u.read ++ p'.bytes)
      u.written := by
    rw [show p'.bytes = p.bytes ++ piece from bytes, ← List.append_assoc]
    rw [List.append_nil] at shifts
    exact shifts.take (shifts_of_took took)
  cases outcome with
  | done =>
    cases went
    exact attached_of_shifts rfl rfl rfl further
  | failed e => cases went
  | blocked =>
    cases went
    exact ⟨_, _, _, [], rfl, rfl, by rwa [List.append_nil]⟩

theorem writing_conserves {o : Output} {rest : Bytes}
    (known : Attached opening u.read u.written c (.writing o rest))
    (went : u.goOn c (.writing o rest) = some u') : u'.Conserves opening := by
  obtain ⟨s, r, w, sent, link, due, shifts⟩ := known
  obtain ⟨more, given, gave⟩ := o.attempt_gave due ⟨w, s⟩
  rw [goOn, Connection.writing, link] at went
  dsimp only at went
  generalize o.attempt rest ⟨w, s⟩ = x at given gave went
  obtain ⟨⟨outcome, rest'⟩, after⟩ := x
  have further : Shifts opening (behind after.sink r after.buffer) (u.read ++ [])
      (u.written ++ (sent ++ more)) := by
    rw [← List.append_assoc]
    exact shifts.give (shifts_of_wrote given)
  cases outcome with
  | done written =>
    obtain rfl : written = sent ++ more := gave
    cases went
    rw [List.append_nil] at further
    exact attached_of_shifts rfl rfl rfl further
  | failed e => cases went
  | blocked =>
    cases went
    exact ⟨_, _, _, sent ++ more, rfl, gave, further⟩

/-- Handing over ends with both buffers empty: what the one held back was passed on, and what was
read ahead into the other is given away. -/
theorem handingOver_conserves (known : Attached opening u.read u.written c .handingOver)
    (went : u.goOn c .handingOver = some u') : u'.Conserves opening := by
  obtain ⟨s, r, w, link, shifts⟩ := known.at_rest
  obtain ⟨rests, emptied⟩ := BufferedSink.flush_spec (⟨w, s⟩ : BufferedSink σ)
  rw [goOn, handOver, Connection.writing, link] at went
  dsimp only at went
  generalize (⟨w, s⟩ : BufferedSink σ).flush = x at rests emptied went
  obtain ⟨outcome, after⟩ := x
  have further : Shifts opening (behind after.sink r after.buffer) u.read u.written := by
    rw [← List.append_nil u.written]
    exact shifts.give (shifts_of_wrote (by rwa [Traffic.write_nil]))
  cases outcome with
  | done =>
    obtain ⟨empty, passed⟩ := emptied rfl
    cases went
    exact raw_conserves_of_flushed empty passed further
  | failed e => cases went
  | blocked =>
    cases went
    exact attached_of_shifts rfl rfl rfl further

/-! ## Acts -/

theorem goOn_conserves {a : Activity} (known : Attached opening u.read u.written c a)
    (went : u.goOn c a = some u') : u'.Conserves opening := by
  cases a with
  | idle => cases went
  | reading i p => exact reading_conserves known went
  | writing o rest => exact writing_conserves known went
  | handingOver => exact handingOver_conserves known went

omit [LawfulStream σ] in
theorem takeUp_conserves {a next : Activity} (known : Attached opening u.read u.written c a)
    (stepped : u.takeUp c a next = some u') (collected : next.collected = [])
    (sent : next.HasSent []) : u'.Conserves opening := by
  cases a with
  | idle =>
    cases stepped
    obtain ⟨s, r, w, link, shifts⟩ := known.at_rest
    exact attached_of_shifts link collected sent shifts
  | reading | writing | handingOver => cases stepped

omit [LawfulStream σ] in
theorem peer_conserves {a : Activity} {f : σ → σ} (known : Attached opening u.read u.written c a)
    (stepped : u.stepAttached c a (.peer f) = some u') : u'.Conserves opening := by
  obtain ⟨s, r, w, sent, link, due, shifts⟩ := known
  obtain ⟨rests, ⟨⟩⟩ := Option.ite_none_right_eq_some.mp stepped
  rw [stream?, link] at rests
  rw [onStream, link]
  exact ⟨f s, r, w, sent, rfl, due, shifts.rests (behind_rests (by simpa using rests))⟩

theorem stepAttached_conserves {a : Activity} {act : Act σ}
    (known : Attached opening u.read u.written c a)
    (stepped : u.stepAttached c a act = some u') : u'.Conserves opening := by
  cases act with
  | read i => exact takeUp_conserves known stepped i.bytes_start rfl
  | write o => exact takeUp_conserves known stepped rfl rfl
  | handOver => exact takeUp_conserves known stepped rfl rfl
  | goOn => exact goOn_conserves known stepped
  | peer f => exact peer_conserves known stepped
  | rawRead | rawWrite | rawFlush => cases stepped

/-- **Whatever one act is, what travels through the connection is conserved.** -/
theorem step_conserves {act : Act σ} (known : u.Conserves opening)
    (stepped : u.step act = some u') : u'.Conserves opening := by
  obtain ⟨read, written, place⟩ := u
  cases place with
  | attached c a => exact stepAttached_conserves known stepped
  | raw r =>
    obtain ⟨r', moved, rfl⟩ := Option.map_eq_some_iff.mp stepped
    exact Raw.Conserves.step known moved

/-- **Whatever the owner and the peer do, what travels through the connection is conserved.** -/
theorem run_conserves {acts : List (Act σ)} (known : u.Conserves opening)
    (ran : u.run acts = some u') : u'.Conserves opening := by
  induction acts generalizing u with
  | nil =>
    cases ran
    exact known
  | cons act acts ih =>
    obtain ⟨v, stepped, ran⟩ := Option.bind_eq_some_iff.mp ran
    exact ih (step_conserves known stepped) ran

omit [LawfulStream σ] in
theorem unused_conserves (bufferSize : Nat) (stream : σ) :
    (unused bufferSize stream).Conserves (traffic stream) :=
  attached_of_shifts rfl rfl rfl ⟨rfl, rfl, List.prefix_refl _⟩

/-- **The stream that is handed over carries on where the connection left off**, whatever the
capacity of the buffers was: what was read through the connection, what was read ahead and what is
read directly are what the peer sends, and the peer is given what was written through the connection
and then what is written directly. -/
theorem handOver_conserves {bufferSize : Nat} {stream : σ} {acts : List (Act σ)} {r : Raw σ}
    (ran : (unused bufferSize stream).run acts = some u) (raw : u.place = .raw r) :
    (traffic stream).coming = u.read ++ r.ahead ++ r.took ++ (traffic r.stream).coming ∧
      (r.ended → (traffic stream).coming = u.read ++ r.ahead ++ r.took) ∧
      (traffic r.stream).given = (traffic stream).given ++ (u.written ++ r.wrote) ∧
      (traffic stream).given ++ u.written <+: (traffic r.stream).passed ∧
      (r.flushed → (traffic stream).given ++ (u.written ++ r.wrote) <+:
        (traffic r.stream).passed) := by
  have known := run_conserves (unused_conserves bufferSize stream) ran
  rw [Conserves, raw] at known
  refine ⟨known.shifts.coming, fun all => ?_, known.shifts.given, known.passed, known.flushed⟩
  rw [known.shifts.coming, known.ended all, List.append_nil]

/-- Buffers of four bytes before a pipe of five.  A line arrives in two parts, a write is held up by
the full pipe and its last byte waits in the buffer, and the stream is handed over, behind a flush
that is held up too, with one byte read ahead. -/
theorem handOver_conserves_in_parts :
    let stream := Peered.fresh 5 (Bytes.ascii "ab\ncdefghijk")
    let acts : List (Act Peered) :=
      [.peer (·.sends 2), .read .line, .goOn, .peer (·.sends 5), .goOn,
        .write (.all (Bytes.ascii "HELLO WORLD")), .goOn, .peer (·.keeps), .goOn,
        .write (.part (Bytes.ascii "!")), .goOn, .read .fill, .goOn, .read (.just 2), .goOn,
        .peer (·.sends 5), .handOver, .goOn, .peer (·.keeps), .goOn, .rawRead 3, .peer (·.sends 5),
        .peer (·.ends), .rawRead 9, .rawRead 1, .rawWrite (Bytes.ascii "raw"), .rawFlush]
    ∃ u r, (unused 4 stream).run acts = some u ∧ u.place = .raw r ∧ u.read = Bytes.ascii "ab\ncd" ∧
      r.ahead = Bytes.ascii "e" ∧ r.took = Bytes.ascii "fghijk" ∧
      u.written = Bytes.ascii "HELLO WORLD!" ∧ r.wrote = Bytes.ascii "raw" ∧
      (traffic stream).coming = u.read ++ r.ahead ++ r.took ∧
      (traffic r.stream).given = u.written ++ r.wrote := by
  intro stream acts
  have goes : ((unused 4 stream).run acts).any fun u =>
      match u.place with
      | .attached _ _ => false
      | .raw r => r.ended && u.read == Bytes.ascii "ab\ncd" && r.ahead == Bytes.ascii "e" &&
          r.took == Bytes.ascii "fghijk" && u.written == Bytes.ascii "HELLO WORLD!" &&
          r.wrote == Bytes.ascii "raw" := by
    decide +kernel
  obtain ⟨u, ran, found⟩ := (Option.any_eq_true _ _).mp goes
  cases place : u.place with
  | attached c a => rw [place] at found; cases found
  | raw r =>
    rw [place] at found
    simp only [Bool.and_eq_true, beq_iff_eq] at found
    obtain ⟨⟨⟨⟨⟨ended, read⟩, ahead⟩, took⟩, written⟩, wrote⟩ := found
    obtain ⟨_, arrived, given, _⟩ := handOver_conserves ran place
    exact ⟨u, r, ran, place, read, ahead, took, written, wrote, arrived ended, given⟩

end Usage

end Wiretap.Connection
