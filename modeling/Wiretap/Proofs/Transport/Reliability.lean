import Wiretap.Proofs.Transport.Arrivals

/-!
# Streams that can be relied on

A stream can be relied on if no attempt to read it or to write to it ever fails, whatever is done to
it (`Reliable`).  Collecting bytes from such a stream fails at the end of the stream only
(`BufferedSource.collectFrom_fails`), and writing to it never does (`WritesWell.respondFrom`).

A stream may still make one wait.  It does not where a source supplies the bytes that are to be
collected (`BufferedSource.collectFrom_supplies`), or a sink accepts the bytes that are to be
written (`Accepts.respondFrom`), and a buffer in front of either passes that on.

A pipe whose other end is open can be relied on, and accepts what it has room for
(`Peered.reliable_of_open`, `Peered.accepts_of_room`).
-/

namespace Wiretap.Transport

set_option autoImplicit false

/-! ## Streams that do not fail -/

/-- Reading such a source never fails. -/
structure ReadsWell {σ : Type} [ByteSource σ] (good : σ → Prop) : Prop where
  stays : ∀ n s, good s → good (ByteSource.read n s).2
  reads : ∀ n s e, good s → (ByteSource.read n s).1 ≠ .failed e

/-- Writing to such a sink never fails. -/
structure WritesWell {σ : Type} [ByteSink σ] (good : σ → Prop) : Prop where
  stays : ∀ data s, good s → good (ByteSink.write data s).2
  writes : ∀ data s e, good s → (ByteSink.write data s).1 ≠ .failed e
  some : ∀ data s, good s → data ≠ [] → (ByteSink.write data s).1 ≠ .done 0
  staysFlushed : ∀ s, good s → good (ByteSink.flush s).2
  flushes : ∀ s e, good s → (ByteSink.flush s).1 ≠ .failed e

/-- Whatever is read from the stream and written to it, that does not fail. -/
def Reliable {σ : Type} [ByteStream σ] (s : σ) : Prop :=
  ∃ good : σ → Prop, good s ∧ ReadsWell good ∧ WritesWell good

theorem readsWell_reliable {σ : Type} [ByteStream σ] : ReadsWell (Reliable (σ := σ)) where
  stays n s := by
    rintro ⟨good, here, reads, writes⟩
    exact ⟨good, reads.stays n s here, reads, writes⟩
  reads n s e := by
    rintro ⟨good, here, reads, _⟩
    exact reads.reads n s e here

theorem writesWell_reliable {σ : Type} [ByteStream σ] : WritesWell (Reliable (σ := σ)) where
  stays data s := by
    rintro ⟨good, here, reads, writes⟩
    exact ⟨good, writes.stays data s here, reads, writes⟩
  writes data s e := by
    rintro ⟨good, here, _, writes⟩
    exact writes.writes data s e here
  some data s := by
    rintro ⟨good, here, _, writes⟩
    exact writes.some data s here
  staysFlushed s := by
    rintro ⟨good, here, reads, writes⟩
    exact ⟨good, writes.staysFlushed s here, reads, writes⟩
  flushes s e := by
    rintro ⟨good, here, _, writes⟩
    exact writes.flushes s e here

/-! ## Reading -/

namespace BufferedSource

section

variable {σ : Type} [ByteSource σ] {good : σ → Prop}

theorem fill_readsWell (well : ReadsWell good) {s : BufferedSource σ} (here : good s.source) :
    good s.fill.2.source ∧ ∀ e, s.fill.1 ≠ .failed e := by
  rw [fill]
  split
  · exact ⟨here, by rintro _ ⟨⟩⟩
  · have stays := well.stays s.buffer.capacity _ here
    have reads (e : IoFault) := well.reads s.buffer.capacity _ e here
    generalize ByteSource.read s.buffer.capacity s.source = x at stays reads
    obtain ⟨_ | e | _, source⟩ := x
    · exact ⟨stays, by rintro _ ⟨⟩⟩
    · exact absurd rfl (reads e)
    · exact ⟨stays, by rintro _ ⟨⟩⟩

/-- A buffer in front of a source whose reading does not fail is such a source. -/
theorem readsWell (well : ReadsWell good) :
    ReadsWell fun s : BufferedSource σ => good s.source where
  stays n s here := by
    change good (s.read n).2.source
    rw [read]
    split
    · exact well.stays n _ here
    · have filled := (fill_readsWell well here).1
      generalize s.fill = x at filled
      obtain ⟨_ | _ | _, after⟩ := x <;> exact filled
  reads n s e here := by
    change (s.read n).1 ≠ .failed e
    rw [read]
    split
    · exact well.reads n _ e here
    · have filled := (fill_readsWell well here).2
      generalize s.fill = x at filled
      obtain ⟨_ | e' | _, after⟩ := x
      · rintro ⟨⟩
      · exact absurd rfl (filled e')
      · rintro ⟨⟩

end

variable {σ : Type} [ByteSource σ] [Travelled σ] [LawfulSource σ] {good : σ → Prop}

/-- **Collecting bytes from a source that can be relied on fails at its end only.** -/
theorem collectFrom_fails (well : ReadsWell good) (fuel : Nat) (pieces : List Bytes) (missing : Nat)
    {s : BufferedSource σ} (here : good s.source) (positive : 0 < s.buffer.capacity) :
    good (collectFrom fuel pieces missing s).source.source ∧
      ∀ e, (collectFrom fuel pieces missing s).outcome = .failed e →
        e = IoFault.earlyEnd ∧ 0 < (collectFrom fuel pieces missing s).missing ∧
          (collectFrom fuel pieces missing s).source.unread = [] := by
  induction fuel generalizing pieces missing s with
  | zero =>
    refine ⟨here, fun e failed => ?_⟩
    change (if missing = 0 then Attempt.done () else .blocked) = .failed e at failed
    split at failed <;> cases failed
  | succ fuel ih =>
    rw [collectFrom]
    split
    · exact ⟨here, by rintro _ ⟨⟩⟩
    · next more =>
      have some_bytes : 0 < missing := Nat.pos_of_ne_zero more
      have stays := (readsWell well).stays missing s here
      have fails (e : IoFault) := (readsWell well).reads missing s e here
      have reads : Reads missing s (ByteSource.read missing s).1 (ByteSource.read missing s).2 :=
        reads_read missing s
      split
      · next read =>
        rw [read] at stays reads
        obtain ⟨took, _, ended⟩ := reads
        refine ⟨stays, ?_⟩
        rintro _ ⟨⟩
        exact ⟨rfl, some_bytes, took.unread.symm.trans (ended some_bytes positive rfl)⟩
      · next read =>
        rw [read] at stays reads
        exact ih _ _ stays (reads.1.capacity ▸ positive)
      · next e _ read =>
        rw [read] at fails
        exact absurd rfl (fails e)
      · next read =>
        rw [read] at stays
        exact ⟨stays, by rintro _ ⟨⟩⟩

end BufferedSource

section

variable {σ : Type} [ByteSource σ] [Travelled σ] [LawfulSource σ]

/-- A source that can be read to its end supplies any number of bytes. -/
theorem Supplies.of_beyond {k m : Nat} {s : σ} (supplies : Supplies k s)
    (beyond : (traffic s).coming.length < k) : Supplies m s := by
  induction m using Nat.strongRecOn generalizing k s with
  | ind m ih =>
    obtain _ | m := m
    · exact .none s
    cases supplies with
    | none => exact absurd beyond (Nat.not_lt_zero _)
    | @more k _ reads goesOn =>
      refine .more reads fun n piece read some_bytes => ?_
      have takes := LawfulSource.read_takes n s
      rw [read] at takes
      obtain ⟨⟨rest, split, _, coming, _⟩, _⟩ := takes
      have taken := List.length_pos_of_ne_nil some_bytes
      refine ih _ (by omega) (goesOn n piece read some_bytes) ?_
      change (traffic (ByteSource.read n s).2).coming = rest at coming
      rw [split, List.length_append] at beyond
      rw [coming]
      omega

namespace BufferedSource

omit [Travelled σ] [LawfulSource σ] in
/-- A buffer that holds a byte, or whose source supplies one, can be read. -/
theorem read_of_supplies {s : BufferedSource σ} {k n : Nat} (supplies : Supplies k s.source)
    (positive : 0 < s.buffer.capacity) (enough : 0 < s.held.length + k) (room : 0 < n) :
    ∃ piece, (s.read n).1 = .done piece := by
  rw [BufferedSource.read]
  split
  · next direct =>
    obtain ⟨empty, _⟩ := Bool.and_eq_true_iff.mp direct
    rw [List.isEmpty_iff.mp empty, List.length_nil, Nat.zero_add] at enough
    cases supplies with
    | none => exact absurd enough (Nat.lt_irrefl 0)
    | more reads => exact reads n room
  · obtain ⟨filled, _⟩ := fill_supplies supplies positive enough
    generalize s.fill = x at filled
    obtain ⟨_, after⟩ := x
    cases filled
    exact ⟨_, rfl⟩

/-- Behind a piece that was read, the rest of what there was is still supplied. -/
theorem supplies_of_read {s : BufferedSource σ} {k n : Nat} {piece : Bytes}
    (supplies : Supplies k s.source) (positive : 0 < s.buffer.capacity)
    (enough : 0 < s.held.length + k) (read : (s.read n).1 = .done piece) (some : piece ≠ []) :
    ∃ more, Supplies more (s.read n).2.source ∧ 0 < (s.read n).2.buffer.capacity ∧
      s.held.length + k ≤ piece.length + ((s.read n).2.held.length + more) := by
  rw [BufferedSource.read] at read ⊢
  split at read
  · next direct =>
    rw [if_pos direct]
    obtain ⟨empty, _⟩ := Bool.and_eq_true_iff.mp direct
    have none : s.held = [] := List.isEmpty_iff.mp empty
    rw [none, List.length_nil, Nat.zero_add] at enough
    cases supplies with
    | none => exact absurd enough (Nat.lt_irrefl 0)
    | more _ goesOn =>
      refine ⟨_, goesOn n piece read some, positive, ?_⟩
      change s.held.length + _ ≤ piece.length + (s.held.length + _)
      omega
  · next indirect =>
    rw [if_neg indirect]
    have same := s.fill_spec.1.capacity
    obtain ⟨filled, onward⟩ := fill_supplies supplies positive enough
    generalize s.fill = x at filled onward same read
    obtain ⟨_, after⟩ := x
    cases filled
    cases read
    have held : after.held ≠ [] := fun none => some (by rw [none, List.take_nil])
    obtain ⟨more, supplies, further⟩ := onward held
    refine ⟨more, supplies, same.symm ▸ positive, ?_⟩
    change s.held.length + k ≤ after.held.length + more at further
    change _ ≤ (after.held.take n).length + ((after.held.drop n).length + more)
    rw [List.length_take, List.length_drop]
    omega

/-- A buffer supplies what it holds and what the source behind it supplies. -/
theorem supplies_of_source {s : BufferedSource σ} {j k : Nat} (supplies : Supplies k s.source)
    (positive : 0 < s.buffer.capacity) (enough : j ≤ s.held.length + k) : Supplies j s := by
  induction j using Nat.strongRecOn generalizing k s with
  | ind j ih =>
    obtain _ | j := j
    · exact .none s
    have some_there : 0 < s.held.length + k := by omega
    refine .more (fun n => read_of_supplies supplies positive some_there) fun n piece read some => ?_
    have long := List.length_pos_of_ne_nil some
    obtain ⟨more, supplies, positive, left⟩ :=
      supplies_of_read supplies positive some_there read some
    refine ih _ (by omega) supplies positive ?_
    change j + 1 - piece.length ≤ (s.read n).2.held.length + more
    omega

/-- **Collecting bytes does not wait where they are supplied.** -/
theorem collectFrom_supplies {fuel missing k : Nat} (pieces : List Bytes) {s : BufferedSource σ}
    (supplies : Supplies k s) (within : missing ≤ k) (fueled : missing ≤ fuel) :
    (collectFrom fuel pieces missing s).outcome ≠ .blocked ∧
      ((collectFrom fuel pieces missing s).outcome = .done () →
        Supplies (k - missing) (collectFrom fuel pieces missing s).source) := by
  induction fuel generalizing pieces missing k s with
  | zero =>
    obtain rfl := Nat.le_zero.mp fueled
    exact ⟨by rintro ⟨⟩, fun _ => supplies⟩
  | succ fuel ih =>
    rw [collectFrom]
    split
    · next none =>
      obtain rfl := none
      exact ⟨by rintro ⟨⟩, fun _ => supplies⟩
    · next more =>
      cases supplies with
      | none => exact absurd (Nat.le_zero.mp within) more
      | more reads goesOn =>
        obtain ⟨piece, read⟩ := reads missing (Nat.pos_of_ne_zero more)
        have onward := goesOn missing piece read
        have fits : Reads missing s (ByteSource.read missing s).1 (ByteSource.read missing s).2 :=
          reads_read missing s
        generalize ByteSource.read missing s = x at read onward fits
        obtain ⟨_, after⟩ := x
        cases read
        cases piece with
        | nil => exact ⟨by rintro ⟨⟩, by rintro ⟨⟩⟩
        | cons b rest =>
          have short : (b :: rest).length ≤ missing := fits.2.1
          have long : 0 < (b :: rest).length := Nat.succ_pos _
          have less : missing - (b :: rest).length ≤ fuel := by omega
          obtain ⟨unblocked, done⟩ := ih ((b :: rest) :: pieces)
            (onward (List.cons_ne_nil b rest)) (by omega) less
          refine ⟨unblocked, fun finished => ?_⟩
          have left := done finished
          rwa [Nat.sub_sub_sub_cancel_right short] at left

end BufferedSource

end

/-! ## Writing -/

section

variable {σ : Type} [ByteSink σ] {good : σ → Prop}

namespace WritesWell

theorem writeFrom (well : WritesWell good) (fuel : Nat) (data : Bytes) {s : σ} (here : good s) :
    good (writeFrom fuel data s).sink ∧ ∀ e, (writeFrom fuel data s).outcome ≠ .failed e := by
  induction fuel generalizing data s with
  | zero =>
    refine ⟨here, fun e failed => ?_⟩
    change (if data.isEmpty then Attempt.done () else .blocked) = .failed e at failed
    split at failed <;> cases failed
  | succ fuel ih =>
    rw [Transport.writeFrom]
    split
    · exact ⟨here, by rintro _ ⟨⟩⟩
    · next more =>
      have stays := well.stays data s here
      have fails (e : IoFault) := well.writes data s e here
      have moves := well.some data s here (by simpa using more)
      generalize ByteSink.write data s = x at stays fails moves
      obtain ⟨n | e | _, after⟩ := x
      · obtain _ | n := n
        · exact absurd rfl moves
        · exact ih _ stays
      · exact absurd rfl (fails e)
      · exact ⟨stays, by rintro _ ⟨⟩⟩

/-- **Writing to a sink that can be relied on does not fail.** -/
theorem respondFrom (well : WritesWell good) (data : Bytes) {s : σ} (here : good s) :
    good (Message.respondFrom data s).sink ∧
      ∀ e, (Message.respondFrom data s).outcome ≠ .failed e := by
  obtain ⟨stays, fails⟩ := well.writeFrom data.length data here
  rw [Message.respondFrom, writeAll]
  generalize Transport.writeFrom data.length data s = w at stays fails
  obtain ⟨_ | e | _, rest, after⟩ := w
  · exact ⟨well.staysFlushed _ stays, fun e => well.flushes _ e stays⟩
  · exact absurd rfl (fails e)
  · exact ⟨stays, by rintro _ ⟨⟩⟩

end WritesWell

namespace BufferedSink

theorem drain_writesWell (well : WritesWell good) {s : BufferedSink σ} (here : good s.sink) :
    good s.drain.2.sink ∧ ∀ e, s.drain.1 ≠ .failed e := by
  obtain ⟨stays, fails⟩ := well.writeFrom s.buffer.pending.length s.buffer.pending here
  rw [drain, writeAll]
  generalize writeFrom s.buffer.pending.length s.buffer.pending s.sink = w at stays fails
  obtain ⟨_ | e | _, rest, after⟩ := w
  · exact ⟨stays, by rintro _ ⟨⟩⟩
  · exact absurd rfl (fails e)
  · exact ⟨stays, by rintro _ ⟨⟩⟩

theorem accept_writesWell (well : WritesWell good) {data : Bytes} {s : BufferedSink σ}
    (here : good s.sink) :
    good (s.accept data).2.sink ∧ (∀ e, (s.accept data).1 ≠ .failed e) ∧
      (data ≠ [] → (s.accept data).1 ≠ .done 0) := by
  rw [accept]
  split
  · exact ⟨well.stays data _ here, fun e => well.writes data _ e here, well.some data _ here⟩
  · refine ⟨here, by rintro _ ⟨⟩, fun some_bytes none => ?_⟩
    exact some_bytes (List.eq_nil_of_length_eq_zero (Attempt.done.inj none))

/-- A buffer in front of a sink that writing to does not fail is such a sink. -/
theorem writesWell (well : WritesWell good) :
    WritesWell fun s : BufferedSink σ => good s.sink := by
  have write {data : Bytes} {s : BufferedSink σ} (here : good s.sink) :
      good (s.write data).2.sink ∧ (∀ e, (s.write data).1 ≠ .failed e) ∧
        (data ≠ [] → (s.write data).1 ≠ .done 0) := by
    rw [BufferedSink.write]
    split
    · obtain ⟨stays, fails⟩ := drain_writesWell well here
      generalize s.drain = x at stays fails
      obtain ⟨_ | e | _, after⟩ := x
      · exact accept_writesWell well stays
      · exact absurd rfl (fails e)
      · exact ⟨stays, by rintro _ ⟨⟩, by rintro _ ⟨⟩⟩
    · exact accept_writesWell well here
  have flush {s : BufferedSink σ} (here : good s.sink) :
      good s.flush.2.sink ∧ ∀ e, s.flush.1 ≠ .failed e := by
    rw [BufferedSink.flush]
    obtain ⟨stays, fails⟩ := drain_writesWell well here
    generalize s.drain = x at stays fails
    obtain ⟨_ | e | _, after⟩ := x
    · exact ⟨well.staysFlushed _ stays, fun e => well.flushes _ e stays⟩
    · exact absurd rfl (fails e)
    · exact ⟨stays, by rintro _ ⟨⟩⟩
  exact ⟨fun _ _ here => (write here).1, fun _ _ e here => (write here).2.1 e,
    fun _ _ here => (write here).2.2, fun _ here => (flush here).1, fun _ e here => (flush here).2 e⟩

end BufferedSink

end

/-- So many bytes can be written, in pieces of any size, and flushed at any time without anybody else
acting. -/
inductive Accepts {σ : Type} [ByteSink σ] : Nat → σ → Prop where
  | none {s : σ} (flushes : (ByteSink.flush s).1 = .done ()) : Accepts 0 s
  | more {k : Nat} {s : σ} (flushes : (ByteSink.flush s).1 = .done ())
    (writes : ∀ data : Bytes, data ≠ [] → data.length ≤ k + 1 →
      ∃ n, (ByteSink.write data s).1 = .done (n + 1))
    (goesOn : ∀ (data : Bytes) n, data.length ≤ k + 1 → (ByteSink.write data s).1 = .done (n + 1) →
      Accepts (k - n) (ByteSink.write data s).2) : Accepts (k + 1) s

section

variable {κ : Type} [ByteSink κ]

namespace Accepts

theorem flushes {k : Nat} {s : κ} (accepts : Accepts k s) : (ByteSink.flush s).1 = .done () := by
  cases accepts with
  | none flushes => exact flushes
  | more flushes => exact flushes

variable [Travelled κ] [LawfulSink κ]

/-- Bytes that are accepted are all written in one go. -/
theorem writeFrom {fuel k : Nat} (data : Bytes) {s : κ} (accepts : Accepts k s)
    (within : data.length ≤ k) (fueled : data.length ≤ fuel) :
    (writeFrom fuel data s).outcome = .done () ∧
      Accepts (k - data.length) (writeFrom fuel data s).sink := by
  induction fuel generalizing k data s with
  | zero =>
    obtain rfl := List.eq_nil_of_length_eq_zero (Nat.le_zero.mp fueled)
    exact ⟨rfl, accepts⟩
  | succ fuel ih =>
    rw [Transport.writeFrom]
    split
    · next empty =>
      obtain rfl := List.isEmpty_iff.mp empty
      exact ⟨rfl, accepts⟩
    · next some_bytes =>
      have full : data ≠ [] := by simpa using some_bytes
      have long := List.length_pos_of_ne_nil full
      cases accepts with
      | none => omega
      | @more k _ _ writes goesOn =>
        obtain ⟨n, written⟩ := writes data full within
        have onward := goesOn data n within written
        have gives := LawfulSink.write_gives data s
        generalize ByteSink.write data s = x at written onward gives
        obtain ⟨_, after⟩ := x
        cases written
        have short : n + 1 ≤ data.length := gives.1
        have left : (data.drop (n + 1)).length = data.length - (n + 1) := List.length_drop
        obtain ⟨done, accepts⟩ :=
          ih (data.drop (n + 1)) onward (by omega) (by omega)
        refine ⟨done, ?_⟩
        rw [left] at accepts
        have same : k + 1 - data.length = k - n - (data.length - (n + 1)) := by omega
        rw [same]
        exact accepts

theorem writeAll {k : Nat} {data : Bytes} {s : κ} (accepts : Accepts k s)
    (within : data.length ≤ k) :
    (writeAll data s).outcome = .done () ∧ Accepts (k - data.length) (writeAll data s).sink :=
  accepts.writeFrom data within (Nat.le_refl _)

/-- **A response that is accepted is written and passed on in one go.** -/
theorem respondFrom {k : Nat} {data : Bytes} {s : κ} (accepts : Accepts k s)
    (within : data.length ≤ k) : (Message.respondFrom data s).outcome = .done () := by
  obtain ⟨done, accepts⟩ := accepts.writeAll within
  rw [Message.respondFrom]
  generalize Transport.writeAll data s = w at done accepts
  obtain ⟨_, rest, after⟩ := w
  cases done
  exact accepts.flushes

end Accepts

end

namespace BufferedSink

variable {σ : Type} [ByteSink σ] [Travelled σ] [LawfulSink σ]

theorem drain_accepts {s : BufferedSink σ} {k : Nat} (accepts : Accepts k s.sink)
    (within : s.buffer.pending.length ≤ k) :
    s.drain.1 = .done () ∧ s.drain.2.buffer = s.buffer.keep [] ∧
      Accepts (k - s.buffer.pending.length) s.drain.2.sink := by
  obtain ⟨done, accepts⟩ := accepts.writeAll within
  rw [drain]
  generalize writeAll s.buffer.pending s.sink = w at done accepts
  obtain ⟨_, rest, after⟩ := w
  cases done
  exact ⟨rfl, rfl, accepts⟩

theorem flush_accepts {s : BufferedSink σ} {k : Nat} (accepts : Accepts k s.sink)
    (within : s.buffer.pending.length ≤ k) : s.flush.1 = .done () := by
  obtain ⟨done, _, accepts⟩ := drain_accepts accepts within
  rw [flush]
  generalize s.drain = x at done accepts
  obtain ⟨_, after⟩ := x
  cases done
  exact accepts.flushes

/-- Some of the data has been written, and what is accepted then leaves room for what the buffer
holds back and so many bytes more. -/
def TakesOn (j : Nat) (x : Attempt Nat × BufferedSink σ) : Prop :=
  ∃ n, x.1 = .done (n + 1) ∧ ∃ k, Accepts k x.2.sink ∧ x.2.buffer.pending.length + (j - n) ≤ k

omit [Travelled σ] [LawfulSink σ] in
theorem accept_accepts {s : BufferedSink σ} {data : Bytes} {j k : Nat} (accepts : Accepts k s.sink)
    (room : s.buffer.capacity ≤ data.length → s.buffer.pending = [])
    (enough : s.buffer.pending.length + (j + 1) ≤ k) (some_bytes : data ≠ [])
    (within : data.length ≤ j + 1) : TakesOn j (s.accept data) := by
  have long := List.length_pos_of_ne_nil some_bytes
  rw [accept]
  split
  · next large =>
    have none : s.buffer.pending.length = 0 := by rw [room large, List.length_nil]
    cases accepts with
    | none => omega
    | @more k _ _ writes goesOn =>
      obtain ⟨n, written⟩ := writes data some_bytes (by omega)
      refine ⟨n, written, k - n, goesOn data n (by omega) written, ?_⟩
      change s.buffer.pending.length + (j - n) ≤ k - n
      omega
  · refine ⟨data.length - 1, congrArg Attempt.done (Nat.sub_add_cancel long).symm, k, accepts, ?_⟩
    change (s.buffer.add data).pending.length + _ ≤ k
    rw [pending_add, List.length_append]
    omega

theorem write_accepts {s : BufferedSink σ} {data : Bytes} {j k : Nat} (accepts : Accepts k s.sink)
    (enough : s.buffer.pending.length + (j + 1) ≤ k) (some_bytes : data ≠ [])
    (within : data.length ≤ j + 1) : TakesOn j (s.write data) := by
  rw [write]
  split
  · obtain ⟨done, empty, accepts⟩ := drain_accepts accepts (by omega)
    generalize s.drain = x at done empty accepts
    obtain ⟨_, after⟩ := x
    cases done
    have none : after.buffer.pending = [] := by rw [empty]; rfl
    refine accept_accepts accepts (fun _ => none) ?_ some_bytes within
    rw [none, List.length_nil]
    omega
  · next fits =>
    refine accept_accepts accepts (fun large => ?_) enough some_bytes within
    have none : s.buffer.held = [] := List.eq_nil_of_length_eq_zero (by omega)
    rw [WriteBuffer.pending, none, List.drop_nil]

/-- A buffer accepts what the sink behind it accepts beyond what it holds back. -/
theorem accepts_of_sink {s : BufferedSink σ} {j k : Nat} (accepts : Accepts k s.sink)
    (enough : s.buffer.pending.length + j ≤ k) : Accepts j s := by
  induction j using Nat.strongRecOn generalizing k s with
  | ind j ih =>
    obtain _ | j := j
    · exact .none (flush_accepts accepts enough)
    · refine .more (flush_accepts accepts (by omega)) (fun data some_bytes within => ?_)
        fun data n within written => ?_
      · obtain ⟨n, written, _⟩ := write_accepts accepts enough some_bytes within
        exact ⟨n, written⟩
      · have some_bytes : data ≠ [] := by
          rintro rfl
          have gives := LawfulSink.write_gives [] s
          rw [written] at gives
          exact absurd gives.1 (Nat.not_succ_le_zero n)
        obtain ⟨n', written', k', accepts, room⟩ := write_accepts accepts enough some_bytes within
        cases written.symm.trans written'
        exact ih (j - n) (by omega) accepts room

end BufferedSink

/-! ## Pipes -/

theorem Pipe.read_ne_failed (p : Pipe) (n : Nat) (e : IoFault) : (p.read n).1 ≠ .failed e := by
  rw [read]
  split
  · split <;> rintro ⟨⟩
  · rintro ⟨⟩

/-- An open pipe takes what it has room for, and makes one wait where it has none. -/
theorem Pipe.write_of_open {p : Pipe} (opened : p.closed = false) (data : Bytes) :
    p.write data = if p.capacity ≤ p.held.length then (.blocked, p)
      else (.done (min (p.capacity - p.held.length) data.length),
        { p with held := p.held ++ data.take (p.capacity - p.held.length) }) := by
  have shut : ¬ p.closed := by rw [opened]; exact Bool.false_ne_true
  rw [write, if_neg shut, ← List.length_take]
  simp only [Nat.sub_eq_zero_iff_le]

namespace Peered

theorem write_of_open {s : Peered} (opened : s.duplex.outgoing.closed = false) (data : Bytes) :
    (ByteSink.write data s).2.duplex.outgoing.closed = false ∧
      ((ByteSink.write data s).1 = .blocked ∧
          s.duplex.outgoing.capacity ≤ s.duplex.outgoing.held.length ∨
        ∃ n, (ByteSink.write data s).1 = .done n ∧
          s.duplex.outgoing.held.length < s.duplex.outgoing.capacity ∧
          n = min (s.duplex.outgoing.capacity - s.duplex.outgoing.held.length) data.length ∧
          (ByteSink.write data s).2.duplex.outgoing.capacity = s.duplex.outgoing.capacity ∧
          (ByteSink.write data s).2.duplex.outgoing.held.length =
            s.duplex.outgoing.held.length + n) := by
  obtain ⟨⟨incoming, p⟩, taken, plan, kept⟩ := s
  dsimp only [ByteSink.write] at opened ⊢
  rw [Pipe.write_of_open opened]
  split
  · next full => exact ⟨opened, .inl ⟨rfl, full⟩⟩
  · next room =>
    refine ⟨opened, .inr ⟨_, rfl, Nat.lt_of_not_le room, rfl, rfl, ?_⟩⟩
    change (p.held ++ data.take _).length = _
    rw [List.length_append, List.length_take]

/-- A pipe whose other end is open can be relied on. -/
theorem reliable_of_open {s : Peered} (opened : s.duplex.outgoing.closed = false) : Reliable s := by
  refine ⟨fun s => s.duplex.outgoing.closed = false, opened, ⟨fun n s here => ?_, fun n s e _ => ?_⟩,
    ⟨fun data s here => (write_of_open here data).1, fun data s e here failed => ?_,
      fun data s here some_bytes none => ?_, fun _ here => here, fun s e _ failed => ?_⟩⟩
  · dsimp only [ByteSource.read]
    generalize s.duplex.incoming.read n = x
    obtain ⟨_ | _ | _, p⟩ := x <;> exact here
  · have fails := s.duplex.incoming.read_ne_failed n
    dsimp only [ByteSource.read]
    generalize s.duplex.incoming.read n = x at fails
    obtain ⟨_ | e' | _, p⟩ := x
    · rintro ⟨⟩
    · exact absurd rfl (fails e')
    · rintro ⟨⟩
  · obtain ⟨_, ⟨blocked, _⟩ | ⟨n, done, _⟩⟩ := write_of_open here data
    · cases blocked.symm.trans failed
    · cases done.symm.trans failed
  · have long := List.length_pos_of_ne_nil some_bytes
    obtain ⟨_, ⟨blocked, _⟩ | ⟨n, done, room, count, _⟩⟩ := write_of_open here data
    · cases blocked.symm.trans none
    · cases done.symm.trans none
      omega
  · cases failed

/-- A pipe whose other end is open accepts as many bytes as it has room for. -/
theorem accepts_of_room {s : Peered} {k : Nat} (opened : s.duplex.outgoing.closed = false)
    (room : s.duplex.outgoing.held.length + k ≤ s.duplex.outgoing.capacity) : Accepts k s := by
  induction k using Nat.strongRecOn generalizing s with
  | ind k ih =>
    obtain _ | k := k
    · exact .none rfl
    · refine .more rfl (fun data some_bytes _ => ?_) fun data n within written => ?_
      · have long := List.length_pos_of_ne_nil some_bytes
        obtain ⟨_, ⟨_, full⟩ | ⟨n, done, _, count, _⟩⟩ := write_of_open opened data
        · omega
        · exact ⟨n - 1, done.trans (congrArg Attempt.done (by omega))⟩
      · obtain ⟨still, ⟨blocked, _⟩ | ⟨_, done, _, count, capacity, held⟩⟩ :=
          write_of_open opened data
        · cases blocked.symm.trans written
        · cases done.symm.trans written
          exact ih _ (by omega) still (by omega)

end Peered

end Wiretap.Transport
