import Wiretap.Proofs.Connection.Course

/-!
# The discipline of a connection

Whatever has been done with a connection before, each operation does what its state allows and no
more (`Orderly`, `Course.orderly_of_run`): the reader and the writer are there exactly while the
connection is open, handing over detaches it or, where what was written cannot be passed on, closes
it, closing always closes it, and only a new stream opens it again.

A close that is done has kept what the writer promised: everything the writer has taken since the
stream was installed has been passed on, and the peer reads an end behind it.  That is carried
through the attempts by what the stream still owes (`Farewell.Owes`).
-/

namespace Wiretap.Connection

set_option autoImplicit false

open Transport (Attempt BufferedSink BufferedSource ByteSink ByteStream Endable LawfulEnd
  LawfulSink LawfulStream Peered ReadBuffer Traffic WriteBuffer ended traffic)

variable {σ : Type}

/-! ## Being open -/

section

variable {c : Connection σ}

theorem isOpen_iff : c.isOpen = true ↔ ∃ s r w, c.link = .attached s r w := by
  rw [isOpen]
  cases c.link with
  | attached s r w => exact ⟨fun _ => ⟨s, r, w, rfl⟩, fun _ => rfl⟩
  | detached => exact ⟨nofun, nofun⟩
  | closed => exact ⟨nofun, nofun⟩

/-- The reader is there exactly while the connection is open, and reading leaves it open. -/
theorem reading_cases {α : Type} (f : BufferedSource σ → α × BufferedSource σ)
    (c : Connection σ) :
    (∃ s r w, c.link = .attached s r w ∧ c.reading f = (.ok (f ⟨r, s⟩).1, { c with
        link := .attached (f ⟨r, s⟩).2.source (f ⟨r, s⟩).2.buffer w })) ∨
      c.isOpen = false ∧ c.reading f = (.error IoFault.notAttached, c) := by
  rw [reading, isOpen]
  cases c.link with
  | attached s r w => exact .inl ⟨s, r, w, rfl, rfl⟩
  | detached => exact .inr ⟨rfl, rfl⟩
  | closed => exact .inr ⟨rfl, rfl⟩

/-- The writer is there exactly while the connection is open, and writing leaves it open. -/
theorem writing_cases {α : Type} (f : BufferedSink σ → α × BufferedSink σ) (c : Connection σ) :
    (∃ s r w, c.link = .attached s r w ∧ c.writing f = (.ok (f ⟨w, s⟩).1, { c with
        link := .attached (f ⟨w, s⟩).2.sink r (f ⟨w, s⟩).2.buffer })) ∨
      c.isOpen = false ∧ c.writing f = (.error IoFault.notAttached, c) := by
  rw [writing, isOpen]
  cases c.link with
  | attached s r w => exact .inl ⟨s, r, w, rfl, rfl⟩
  | detached => exact .inr ⟨rfl, rfl⟩
  | closed => exact .inr ⟨rfl, rfl⟩

theorem onStream_of_attached {act : σ → σ} {s : σ} {r : ReadBuffer} {w : WriteBuffer}
    (link : c.link = .attached s r w) : (c.onStream act).link = .attached (act s) r w := by
  rw [onStream, link]

theorem onStream_of_not_open {act : σ → σ} (shut : c.isOpen = false) : c.onStream act = c := by
  rw [isOpen] at shut
  rw [onStream]
  cases link : c.link with
  | attached s r w => rw [link] at shut; cases shut
  | detached => rfl
  | closed => rfl

end

variable [ByteStream σ]

/-! ## Closing a stream -/

/-- The stream has passed on all these bytes, and has ended behind them. -/
structure Delivered [Endable σ] (s : σ) (data : Bytes) : Prop where
  ended : ended s
  given : (traffic s).given = data
  passed : (traffic s).passed = data

namespace Farewell

variable {f : Farewell σ} {s : BufferedSink σ} {data : Bytes}

/-- What is known of a stream that is to have passed on these bytes when it has been closed. -/
def Owes (data : Bytes) (f : Farewell σ) : Prop :=
  match f.flushed with
  | none => (traffic f.sink).given = data
  | some (.ok ()) => f.sink.buffer.pending = [] ∧ (traffic f.sink.sink).given = data ∧
      (traffic f.sink.sink).passed = (traffic f.sink.sink).given
  | some (.error _) => True

section

variable [LawfulStream σ] [Endable σ] [LawfulEnd σ]

theorem shutDown_owes {flushed : Except IoFault Unit} (owes : Owes data ⟨s, some flushed⟩) :
    (shutDown flushed s).2.Owes data ∧
      ((shutDown flushed s).1 = .done () → Delivered (shutDown flushed s).2.sink.sink data) := by
  cases flushed with
  | error e =>
    rw [shutDown]
    cases s.shutdown with
    | mk r sink => cases r <;> exact ⟨trivial, nofun⟩
  | ok =>
    obtain ⟨empty, given, passed⟩ := owes
    have rests := LawfulSink.shutdown_rests s.sink
    have ends := LawfulEnd.shutdown_ended s.sink
    rw [shutDown, BufferedSink.shutdown_of_empty empty]
    generalize ByteSink.shutdown s.sink = x at rests ends
    obtain ⟨r, sink⟩ := x
    have all : (traffic sink).given = data := rests.2.2.1.trans given
    have still : (traffic sink).passed = (traffic sink).given :=
      Transport.passed_of_rests passed rests
    have further : Owes data ⟨⟨s.buffer.keep [], sink⟩, some (.ok ())⟩ := ⟨rfl, all, still⟩
    cases r with
    | done => exact ⟨further, fun _ => ⟨ends rfl, all, still.trans all⟩⟩
    | failed e => exact ⟨further, nofun⟩
    | blocked => exact ⟨further, nofun⟩

/-- One attempt leaves the same bytes owing, or has delivered them. -/
theorem attempt_owes (owes : f.Owes data) :
    f.attempt.2.Owes data ∧ (f.attempt.1 = .done () → Delivered f.attempt.2.sink.sink data) := by
  obtain ⟨sink, flushed⟩ := f
  cases flushed with
  | some flushed => exact shutDown_owes owes
  | none =>
    obtain ⟨rests, emptied⟩ := sink.flush_spec
    rw [attempt]
    dsimp only
    cases attempted : sink.flush with
    | mk r after =>
      rw [attempted] at rests emptied
      have given : (traffic after).given = data := rests.2.2.1.trans owes
      cases r with
      | done =>
        obtain ⟨empty, passed⟩ := emptied rfl
        rw [BufferedSink.traffic_of_empty empty] at given passed
        apply shutDown_owes
        exact ⟨empty, given, passed⟩
      | failed e =>
        apply shutDown_owes
        trivial
      | blocked =>
        refine ⟨given, ?_⟩
        intro done
        cases done

omit [LawfulStream σ] in
theorem disturb_owes (i : Interlude σ) (owes : f.Owes data) : (f.disturb i).Owes data := by
  obtain ⟨⟨buffer, s⟩, flushed⟩ := f
  have rests := i.rests s
  cases flushed with
  | none => exact (rests.write buffer.pending).2.2.1.trans owes
  | some flushed =>
    cases flushed with
    | error e => trivial
    | ok =>
      obtain ⟨empty, given, passed⟩ := owes
      exact ⟨empty, rests.2.2.1.trans given, Transport.passed_of_rests passed rests⟩

/-- **A stream that has been closed has delivered what it owed.** -/
theorem delivers_of_await (meanwhile : List (Interlude σ)) (owes : f.Owes data)
    (done : (f.await meanwhile).1 = .done ()) :
    Delivered (f.await meanwhile).2.sink.sink data := by
  induction meanwhile generalizing f with
  | nil => exact (attempt_owes owes).2 done
  | cons i more ih =>
    obtain ⟨still, delivered⟩ := attempt_owes owes
    rw [await] at done ⊢
    cases attempted : f.attempt with
    | mk r after =>
      rw [attempted] at still delivered done
      cases r with
      | done => exact delivered rfl
      | failed e => cases done
      | blocked => exact ih (disturb_owes i still) done

end

end Farewell

/-! ## Where operations leave a connection -/

variable {c : Connection σ}

theorem handOver_of_not_open (shut : c.isOpen = false) :
    c.handOver = ⟨.failed IoFault.notAttached, c, none⟩ := by
  rw [isOpen] at shut
  rw [handOver]
  cases link : c.link with
  | attached s r w => rw [link] at shut; cases shut
  | detached => rfl
  | closed => rfl

theorem awaitHandOver_of_not_open (shut : c.isOpen = false) (meanwhile : List (Interlude σ)) :
    c.awaitHandOver meanwhile = ⟨.failed IoFault.notAttached, c, none⟩ := by
  cases meanwhile with
  | nil => exact handOver_of_not_open shut
  | cons i more =>
    rw [awaitHandOver, handOver_of_not_open shut]

/-- Where a connection is left by handing over its stream. -/
def LeftBy (h : Handover σ) : Prop :=
  match h.outcome with
  | .done _ => h.connection.link = .detached
  | .failed _ => h.connection.link = .closed
  | .blocked => h.connection.link = .detached

theorem leftBy_handOver (opened : c.isOpen = true) : LeftBy c.handOver := by
  obtain ⟨s, r, w, link⟩ := isOpen_iff.mp opened
  rw [handOver, link]
  dsimp only
  cases (⟨w, s⟩ : BufferedSink σ).flush with
  | mk outcome after => cases outcome <;> exact rfl

/-- **Handing over an open connection leaves it detached, or closed if it fails.** -/
theorem leftBy_awaitHandOver (opened : c.isOpen = true) (meanwhile : List (Interlude σ)) :
    LeftBy (c.awaitHandOver meanwhile) := by
  induction meanwhile generalizing c with
  | nil => exact leftBy_handOver opened
  | cons i more ih =>
    rw [awaitHandOver]
    cases outcome : c.handOver.outcome with
    | done x => exact leftBy_handOver opened
    | failed e => exact leftBy_handOver opened
    | blocked =>
      apply ih
      obtain ⟨s, r, w, _, flushed⟩ | ⟨shut, _⟩ := writing_cases BufferedSink.flush c
      · rw [flushed]
        exact isOpen_iff.mpr ⟨_, _, _, onStream_of_attached rfl⟩
      · rw [opened] at shut
        cases shut

theorem awaitClose_of_closed (closed : c.link = .closed) (meanwhile : List (Interlude σ)) :
    c.awaitClose meanwhile = ⟨.failed IoFault.alreadyClosed, c, none⟩ := by
  rw [awaitClose, close, closed]

/-- **Whatever closing comes to, it leaves the connection closed.** -/
theorem link_awaitClose (c : Connection σ) (meanwhile : List (Interlude σ)) :
    (c.awaitClose meanwhile).connection.link = .closed := by
  rw [awaitClose]
  cases link : c.link with
  | attached s r w => rfl
  | detached => rw [close, link]
  | closed =>
    rw [close, link]
    exact link

/-! ## The discipline -/

/-- What an operation does with a connection and its stream. -/
structure Orderly [Endable σ] (c : Course σ) (o : Operation σ) (reply : Reply) (c' : Course σ) :
    Prop where
  /-- The reader and the writer are there exactly while the connection is open. -/
  uses : o.isUse → (reply.isOk ↔ c.connection.isOpen)
  /-- Where they are not there, nothing changes. -/
  refuses : o.isUse → c.connection.isOpen = false →
    reply = .error IoFault.notAttached ∧ c' = c
  /-- An open connection that is handed over is detached, unless handing over fails. -/
  handsOver : ∀ meanwhile, o = .handOver meanwhile → c.connection.isOpen →
    (reply = .ok (.done ()) ∧ c'.connection.link = .detached) ∨
      (∃ e, reply = .ok (.failed e) ∧ c'.connection.link = .closed) ∨
      reply = .ok .blocked ∧ c'.connection.link = .detached
  /-- Any other cannot be handed over, and nothing changes. -/
  keepsBack : ∀ meanwhile, o = .handOver meanwhile → c.connection.isOpen = false →
    reply = .ok (.failed IoFault.notAttached) ∧ c' = c
  /-- A connection that is closed is closed, whatever the reply. -/
  closes : ∀ meanwhile, o = .close meanwhile → c'.connection.link = .closed
  /-- It cannot be closed again. -/
  staysClosed : ∀ meanwhile, o = .close meanwhile → c.connection.link = .closed →
    reply = .ok (.failed IoFault.alreadyClosed) ∧ c'.connection = c.connection
  /-- A stream is closed at most once. -/
  once : c'.closes ≤ 1
  /-- Only a new stream opens a connection again. -/
  reopens : c.connection.isOpen = false → c'.connection.isOpen = true →
    ∃ stream, o = .install stream
  /-- A stream that has been closed has given its peer all that the writer has taken, and the
  end. -/
  delivers : ∀ meanwhile, o = .close meanwhile → c.connection.isOpen → reply = .ok (.done ()) →
    ∃ s, c'.left = some s ∧ Delivered s (c.opening.given ++ c.written)

namespace Course

/-- What the writer has taken has been given to the stream, or waits in the buffer; and a stream
that is not closed has not been closed. -/
structure Sound (c : Course σ) : Prop where
  owed : ∀ s r w, c.connection.link = .attached s r w →
    (traffic (⟨w, s⟩ : BufferedSink σ)).given = c.opening.given ++ c.written
  once : c.closes ≤ 1
  unclosed : c.connection.link ≠ .closed → c.closes = 0

section

variable {c : Course σ}

theorem sound_unused (bufferSize : Nat) (stream : σ) : (unused bufferSize stream).Sound where
  owed s r w link := by
    cases link
    rfl
  once := Nat.zero_le 1
  unclosed _ := rfl

/-- A use of the writer that gives what it says it has taken, and else nothing. -/
def Writes (f : BufferedSink σ → Attempt Bytes × BufferedSink σ) : Prop :=
  ∀ s, match (f s).1 with
    | .done taken => ((traffic s).write taken).Rests (traffic (f s).2)
    | _ => (traffic s).Rests (traffic (f s).2)

/-- While a connection stays open, it is sound as long as nothing is lost. -/
theorem Sound.stays_open {connection : Connection σ} {written : Bytes} {s : σ} {r : ReadBuffer}
    {w : WriteBuffer} (sound : c.Sound) (opened : c.connection.isOpen = true)
    (link : connection.link = .attached s r w)
    (owed : (traffic (⟨w, s⟩ : BufferedSink σ)).given = c.opening.given ++ written) :
    Sound { c with connection, written } where
  owed s' r' w' link' := by
    obtain ⟨⟩ := link.symm.trans link'
    exact owed
  once := sound.once
  unclosed _ := by
    obtain ⟨s, r, w, link⟩ := isOpen_iff.mp opened
    apply sound.unclosed
    rw [link]
    nofun

/-- A connection that is closed, or detached, owes nothing. -/
theorem Sound.of_not_open {c' : Course σ} (shut : c'.connection.isOpen = false)
    (once : c'.closes ≤ 1) (unclosed : c'.connection.link ≠ .closed → c'.closes = 0) :
    c'.Sound where
  owed s r w link := by
    rw [isOpen, link] at shut
    cases shut
  once := once
  unclosed := unclosed

theorem use_sound {f : BufferedSink σ → Attempt Bytes × BufferedSink σ} (writes : Writes f)
    (sound : c.Sound) : (c.use f).2.Sound := by
  rw [use]
  obtain ⟨s, r, w, link, used⟩ | ⟨shut, used⟩ := writing_cases f c.connection
  · have opened : c.connection.isOpen = true := isOpen_iff.mpr ⟨s, r, w, link⟩
    have owed := sound.owed s r w link
    have wrote := writes ⟨w, s⟩
    rw [used]
    generalize f ⟨w, s⟩ = x at wrote
    obtain ⟨outcome, after⟩ := x
    cases outcome with
    | done taken =>
      refine sound.stays_open opened rfl ?_
      calc (traffic after).given
        _ = (traffic (⟨w, s⟩ : BufferedSink σ)).given ++ taken := wrote.2.2.1
        _ = c.opening.given ++ (c.written ++ taken) := by rw [owed, List.append_assoc]
    | failed e => exact sound.stays_open opened rfl (wrote.2.2.1.trans owed)
    | blocked => exact sound.stays_open opened rfl (wrote.2.2.1.trans owed)
  · rw [used]
    exact sound

/-- Whatever only lets the writer rest takes nothing. -/
theorem writes_nothing {f : BufferedSink σ → Attempt Unit × BufferedSink σ}
    (rests : ∀ s, (traffic s).Rests (traffic (f s).2)) :
    Writes fun (s : BufferedSink σ) => ((f s).1.map fun _ => [], (f s).2) := by
  intro s
  have rests := rests s
  dsimp only
  generalize f s = x at rests
  obtain ⟨outcome, after⟩ := x
  cases outcome with
  | done =>
    change ((traffic s).write []).Rests (traffic after)
    rwa [Traffic.write_nil]
  | failed e => exact rests
  | blocked => exact rests

section

variable [LawfulStream σ]

theorem writes_write (data : Bytes) :
    Writes fun (s : BufferedSink σ) => ((s.write data).1.map data.take, (s.write data).2) := by
  intro s
  have gives := s.write_gives data
  dsimp only
  generalize s.write data = x at gives
  obtain ⟨outcome, after⟩ := x
  cases outcome with
  | done n => exact gives.2
  | failed e => exact gives
  | blocked => exact gives

theorem read_sound (i : Intake) (p : Intake.Progress) (sound : c.Sound) :
    (c.step (.read i p)).2.Sound := by
  rw [step]
  obtain ⟨s, r, w, link, read⟩ | ⟨shut, read⟩ := reading_cases (i.attempt p) c.connection
  · obtain ⟨piece, took, _⟩ := i.attempt_took p ⟨r, s⟩
    rw [read]
    refine sound.stays_open (isOpen_iff.mpr ⟨s, r, w, link⟩) rfl ?_
    exact (congrArg (· ++ w.pending) took.given).trans (sound.owed s r w link)
  · rw [read]
    exact sound

omit [LawfulStream σ] in
theorem handOver_sound (meanwhile : List (Interlude σ)) (sound : c.Sound) :
    (c.step (.handOver meanwhile)).2.Sound := by
  rw [step]
  cases opened : c.connection.isOpen with
  | true =>
    have left := leftBy_awaitHandOver opened meanwhile
    have unclosed : c.closes = 0 := by
      obtain ⟨s, r, w, link⟩ := isOpen_iff.mp opened
      apply sound.unclosed
      rw [link]
      nofun
    have shut : (c.connection.awaitHandOver meanwhile).connection.isOpen = false := by
      rw [LeftBy] at left
      rw [isOpen]
      split at left <;> rw [left]
    exact .of_not_open shut sound.once fun _ => unclosed
  | false =>
    rw [awaitHandOver_of_not_open opened]
    exact sound

omit [LawfulStream σ] in
theorem close_sound (meanwhile : List (Interlude σ)) (sound : c.Sound) :
    (c.step (.close meanwhile)).2.Sound := by
  have closed := link_awaitClose c.connection meanwhile
  rw [step]
  apply Sound.of_not_open
  · rw [isOpen, closed]
  · cases link : c.connection.link with
    | attached s r w =>
      have none : c.closes = 0 := sound.unclosed (by rw [link]; nofun)
      exact Nat.le_of_eq (congrArg (· + 1) none)
    | detached =>
      have none : c.closes = 0 := sound.unclosed (by rw [link]; nofun)
      exact Nat.le_of_eq (congrArg (· + 1) none)
    | closed => exact sound.once
  · intro unclosed
    exact absurd closed unclosed

omit [LawfulStream σ] in
theorem idle_sound (i : Interlude σ) (sound : c.Sound) : (c.step (.idle i)).2.Sound := by
  rw [step]
  cases opened : c.connection.isOpen with
  | true =>
    obtain ⟨s, r, w, link⟩ := isOpen_iff.mp opened
    refine sound.stays_open opened (onStream_of_attached link) ?_
    exact ((i.rests s).write w.pending).2.2.1.trans (sound.owed s r w link)
  | false =>
    rw [onStream_of_not_open opened]
    exact sound

/-- Whatever is done with a connection, it stays sound. -/
theorem step_sound (o : Operation σ) (sound : c.Sound) : (c.step o).2.Sound := by
  cases o with
  | read i p => exact read_sound i p sound
  | write data => exact use_sound (writes_write data) sound
  | flush => exact use_sound (writes_nothing fun s => s.flush_spec.1) sound
  | finish => exact use_sound (writes_nothing BufferedSink.shutdown_spec) sound
  | handOver meanwhile => exact handOver_sound meanwhile sound
  | close meanwhile => exact close_sound meanwhile sound
  | install stream =>
    constructor
    · intro s r w link
      cases link
      rfl
    · exact Nat.zero_le 1
    · exact fun _ => rfl
  | idle i => exact idle_sound i sound

/-- However a connection has been used, it is sound. -/
theorem run_sound (operations : List (Operation σ)) (sound : c.Sound) :
    (c.run operations).Sound := by
  induction operations generalizing c with
  | nil => exact sound
  | cons o more ih => exact ih (step_sound o sound)

end

end

/-! ## Whole runs -/

section

variable [Endable σ] {c : Course σ} {o : Operation σ}

omit [Endable σ] in
/-- The reader and the writer are refused just where the connection is not open. -/
theorem step_of_use (use : o.isUse) :
    c.connection.isOpen = true ∧ (∃ a, (c.step o).1 = .ok a) ∨
      c.connection.isOpen = false ∧ c.step o = (.error IoFault.notAttached, c) := by
  have written (f : BufferedSink σ → Attempt Bytes × BufferedSink σ) :
      c.connection.isOpen = true ∧ (∃ a, (c.use f).1 = .ok a) ∨
        c.connection.isOpen = false ∧ c.use f = (.error IoFault.notAttached, c) := by
    obtain ⟨s, r, w, link, used⟩ | ⟨shut, used⟩ := writing_cases f c.connection
    · refine .inl ⟨isOpen_iff.mpr ⟨s, r, w, link⟩, ?_⟩
      rw [Course.use, used]
      cases (f ⟨w, s⟩).1 with
      | done taken => exact ⟨_, rfl⟩
      | failed e => exact ⟨_, rfl⟩
      | blocked => exact ⟨_, rfl⟩
    · rw [Course.use, used]
      exact .inr ⟨shut, rfl⟩
  cases o with
  | read i p =>
    obtain ⟨s, r, w, link, read⟩ | ⟨shut, read⟩ := reading_cases (i.attempt p) c.connection
    · refine .inl ⟨isOpen_iff.mpr ⟨s, r, w, link⟩, ?_⟩
      rw [step, read]
      exact ⟨_, rfl⟩
    · rw [step, read]
      exact .inr ⟨shut, rfl⟩
  | write data => exact written _
  | flush => exact written _
  | finish => exact written _
  | handOver meanwhile => cases use
  | close meanwhile => cases use
  | install stream => cases use
  | idle i => cases use

omit [Endable σ] in
/-- What is done with a connection that is not open leaves it so, unless it gets a new stream. -/
theorem reopened (shut : c.connection.isOpen = false)
    (opened : (c.step o).2.connection.isOpen = true) : ∃ stream, o = .install stream := by
  have kept (same : (c.step o).2.connection = c.connection) : False := by
    rw [same, shut] at opened
    cases opened
  have used (use : o.isUse) : False := by
    obtain ⟨other, _⟩ | ⟨_, refused⟩ := step_of_use (c := c) use
    · rw [shut] at other
      cases other
    · rw [refused] at kept
      exact kept rfl
  cases o with
  | read i p => exact (used rfl).elim
  | write data => exact (used rfl).elim
  | flush => exact (used rfl).elim
  | finish => exact (used rfl).elim
  | handOver meanwhile =>
    refine (kept ?_).elim
    rw [step, awaitHandOver_of_not_open shut]
  | close meanwhile =>
    rw [step, isOpen, link_awaitClose] at opened
    cases opened
  | install stream => exact ⟨stream, rfl⟩
  | idle i => exact (kept (onStream_of_not_open shut)).elim

variable [LawfulStream σ] [LawfulEnd σ]

/-- **A stream that has been closed has given its peer all that was written.** -/
theorem delivered_of_close (sound : c.Sound) (meanwhile : List (Interlude σ))
    (opened : c.connection.isOpen = true)
    (done : (c.step (.close meanwhile)).1 = .ok (.done ())) :
    ∃ s, (c.step (.close meanwhile)).2.left = some s ∧
      Delivered s (c.opening.given ++ c.written) := by
  obtain ⟨s, r, w, link⟩ := isOpen_iff.mp opened
  have owes : Farewell.Owes (c.opening.given ++ c.written) (⟨⟨w, s⟩, none⟩ : Farewell σ) :=
    sound.owed s r w link
  rw [step, awaitClose, link] at done ⊢
  exact ⟨_, rfl, Farewell.delivers_of_await meanwhile owes (Except.ok.inj done)⟩

/-- What is done with a sound connection is in order. -/
theorem orderly_of_sound (sound : c.Sound) (o : Operation σ) :
    Orderly c o (c.step o).1 (c.step o).2 where
  uses use := by
    obtain ⟨opened, a, answered⟩ | ⟨shut, refused⟩ := step_of_use (c := c) use
    · rw [answered, opened]
      exact ⟨fun _ => rfl, fun _ => rfl⟩
    · rw [refused, shut]
      exact ⟨nofun, nofun⟩
  refuses use shut := by
    obtain ⟨opened, _⟩ | ⟨_, refused⟩ := step_of_use (c := c) use
    · rw [shut] at opened
      cases opened
    · rw [refused]
      exact ⟨rfl, rfl⟩
  handsOver meanwhile same opened := by
    subst same
    have left := leftBy_awaitHandOver opened meanwhile
    rw [LeftBy] at left
    rw [step]
    dsimp only
    cases outcome : (c.connection.awaitHandOver meanwhile).outcome with
    | done x =>
      rw [outcome] at left
      exact .inl ⟨rfl, left⟩
    | failed e =>
      rw [outcome] at left
      exact .inr (.inl ⟨e, rfl, left⟩)
    | blocked =>
      rw [outcome] at left
      exact .inr (.inr ⟨rfl, left⟩)
  keepsBack meanwhile same shut := by
    subst same
    rw [step, awaitHandOver_of_not_open shut]
    exact ⟨rfl, rfl⟩
  closes meanwhile same := by
    subst same
    exact link_awaitClose c.connection meanwhile
  staysClosed meanwhile same closed := by
    subst same
    rw [step, awaitClose_of_closed closed]
    exact ⟨rfl, rfl⟩
  once := (step_sound o sound).once
  reopens := reopened
  delivers meanwhile same opened done := by
    subst same
    exact delivered_of_close sound meanwhile opened done

/-- **Whatever has been done with a connection, in whatever order and however often, the next
operation does just what the state of the connection allows.** -/
theorem orderly_of_run {bufferSize : Nat} {stream : σ} {operations : List (Operation σ)}
    (ran : (unused bufferSize stream).run operations = c) (o : Operation σ) :
    Orderly c o (c.step o).1 (c.step o).2 := by
  subst ran
  exact orderly_of_sound (run_sound operations (sound_unused bufferSize stream)) o

end

/-- Buffers of four bytes before pipes of five.  The first stream is given up while the pipe is
full, and cannot be closed again; the last byte of the second waits in the buffer, and closing is
held up until the peer has read. -/
theorem orderly_of_run_held_up :
    let peer : Interlude Peered := ⟨Peered.keeps, Peered.keeps_rests⟩
    let stream := Peered.fresh 5 []
    let operations : List (Operation Peered) :=
      [.write (Bytes.ascii "HELLO"), .write (Bytes.ascii "!"), .close [], .close [peer], .flush,
        .install stream, .write (Bytes.ascii "GOODBYE"), .write (Bytes.ascii "YE")]
    ∃ c s, (unused 4 stream).run operations = c ∧
      (c.step (.close [])).1 = .ok .blocked ∧ (c.step (.close [peer])).1 = .ok (.done ()) ∧
      (c.step (.close [peer])).2.left = some s ∧ Delivered s (Bytes.ascii "GOODBYE") := by
  intro peer stream operations
  have answers : ((unused 4 stream).run operations).connection.isOpen = true ∧
      (((unused 4 stream).run operations).step (.close [])).1 = .ok .blocked ∧
      (((unused 4 stream).run operations).step (.close [peer])).1 = .ok (.done ()) ∧
      ((unused 4 stream).run operations).opening.given ++
        ((unused 4 stream).run operations).written = Bytes.ascii "GOODBYE" := by
    decide +kernel
  obtain ⟨c, ran⟩ : ∃ c, (unused 4 stream).run operations = c := ⟨_, rfl⟩
  rw [ran] at answers
  obtain ⟨opened, heldUp, done, given⟩ := answers
  obtain ⟨s, gaveUp, delivered⟩ :=
    (orderly_of_run ran (.close [peer])).delivers [peer] rfl opened done
  rw [given] at delivered
  exact ⟨c, s, ran, heldUp, done, gaveUp, delivered⟩

end Course

end Wiretap.Connection
