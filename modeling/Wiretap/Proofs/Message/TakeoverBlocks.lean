import Wiretap.Proofs.Message.TakeoverPhase
import Wiretap.Proofs.Transport.Patience

/-!
# What a script of a takeover leaves in the sink

An operation that is allowed to write leaves one block in the sink: all of its bytes if it is done,
and a proper first part of them if it is not (`Block.Sound`).  Nothing else leaves anything, so what
the sink has been given by a script is its blocks, one behind the other (`given_after`).  A stored
field goes into the blocks of framed responses only: a script that leaves none of those leaves the
same blocks without its fields (`blocks_withFields`).  Behind a close there are no blocks
(`blocks_close`).

All this holds for every lawful sink, in writes of any size and wherever it fails, and so also for
one that stalls now and then before a deadline (`Transport.Patient`).  A whole response that is
written and flushed obeys the same law (`respondFrom_gives`).
-/

namespace Wiretap.Message.Takeover

set_option autoImplicit false

open Transport (Attempt ByteSink LawfulSink Limited Patient Travelled traffic writeAll
  writeAll_gives)

/-! ## Blocks -/

namespace Operation

/-- What an operation is to write, if it is allowed to. -/
def payload (fields : Fields) : Operation → Bytes
  | .write data => data
  | .respond s body => Reply.framed s fields body
  | _ => []

/-- What an operation gives when it is done. -/
def success : Operation → Effect
  | .write data => .wrote data.length
  | _ => .nothing

/-- What an operation gives when writing its bytes has come to something. -/
def effect (op : Operation) : Attempt Unit → Effect
  | .done () => op.success
  | .failed e => .failed e
  | .blocked => .stalled

def isField : Operation → Bool
  | .field _ _ => true
  | _ => false

def isFramed : Operation → Bool
  | .respond _ _ => true
  | _ => false

/-- Only a framed response carries fields. -/
theorem payload_of_raw {op : Operation} (raw : ¬ op.isFramed) (fields other : Fields) :
    op.payload other = op.payload fields := by
  cases op with
  | respond => exact absurd rfl raw
  | field | status | write | flush | close => rfl

theorem effect_eq_success_iff {op : Operation} {r : Attempt Unit} :
    op.effect r = op.success ↔ r = .done () := by
  refine ⟨fun successful => ?_, fun done => by rw [done]; rfl⟩
  cases r with
  | done => rfl
  | failed | blocked => cases op <;> cases successful

theorem success_or_isBroken (op : Operation) (r : Attempt Unit) :
    op.effect r = op.success ∨ (op.effect r).isBroken := by
  cases r with
  | done => exact .inl rfl
  | failed | blocked => exact .inr rfl

end Operation

/-- What an operation has left in the sink. -/
structure Block where
  op : Operation
  /-- What was to be written. -/
  whole : Bytes
  /-- What the sink has been given of it. -/
  sent : Bytes
  /-- What the operation gave. -/
  effect : Effect
  deriving DecidableEq, Repr

/-- A block is all that was to be written if the operation was done, and a proper first part of it
if the operation came to nothing. -/
structure Block.Sound (b : Block) : Prop where
  payload : ∃ fields, b.whole = b.op.payload fields
  cut : b.sent <+: b.whole
  ends : b.effect = b.op.success ∨ b.effect.isBroken
  whole_iff : b.sent = b.whole ↔ b.effect = b.op.success

section

variable {σ : Type}

/-- Whether the phase allows an operation to write. -/
def allows (t : Takeover σ) : Operation → Bool
  | .write _ => t.phase != .closed
  | .respond _ _ => t.phase == .negotiating
  | _ => false

/-- The takeover with other fields stored. -/
def withFields (t : Takeover σ) (other : Fields) : Takeover σ := { t with fields := other }

@[simp] theorem sink_withFields (t : Takeover σ) (other : Fields) :
    (t.withFields other).sink = t.sink := rfl

@[simp] theorem fields_withFields (t : Takeover σ) (other : Fields) :
    (t.withFields other).fields = other := rfl

@[simp] theorem phase_withFields (t : Takeover σ) (other : Fields) :
    (t.withFields other).phase = t.phase := rfl

@[simp] theorem allows_withFields (t : Takeover σ) (other : Fields) (op : Operation) :
    (t.withFields other).allows op = t.allows op := by
  cases op <;> rfl

variable [ByteSink σ] [Travelled σ]

/-- What an operation that is allowed to write leaves. -/
def block (t : Takeover σ) (op : Operation) : Block where
  op
  whole := op.payload t.fields
  sent := (t.perform op).2.given.drop t.given.length
  effect := (t.perform op).1

/-- The block that an operation leaves, if it is allowed to write. -/
def block? (t : Takeover σ) (op : Operation) : Option Block :=
  if t.allows op then some (t.block op) else none

/-- The blocks that a script leaves. -/
def blocks (t : Takeover σ) : List Operation → List Block
  | [] => []
  | op :: script => (t.block? op).toList ++ (t.perform op).2.blocks script

/-! ## One operation -/

omit [Travelled σ] in
/-- An operation that is allowed to write puts its bytes into the sink. -/
theorem perform_of_allows {t : Takeover σ} {op : Operation} (allowed : t.allows op) :
    t.perform op =
      (op.effect (t.put (op.payload t.fields)).1, (t.put (op.payload t.fields)).2) := by
  cases op with
  | field | status | flush | close => cases allowed
  | respond status body =>
    rw [perform_respond, respond_of_negotiating (beq_iff_eq.mp allowed), Operation.payload]
    obtain ⟨r, later⟩ := t.put (Reply.framed status t.fields body)
    cases r <;> rfl
  | write data =>
    obtain ⟨closed, _⟩ | put := write_cases data t
    · exact absurd closed (bne_iff_ne.mp allowed)
    · rw [perform, put, Operation.payload]
      obtain ⟨r, later⟩ := t.put data
      cases r <;> rfl

omit [Travelled σ] in
theorem perform_write_of_closed {t : Takeover σ} (closed : t.phase = .closed) (data : Bytes) :
    t.perform (.write data) = (.failed IoFault.takeoverClosed, t) := by
  rw [perform, write, if_pos closed]

omit [Travelled σ] in
theorem perform_respond_of_phase {t : Takeover σ} (later : t.phase ≠ .negotiating)
    (status : Status) (body : Bytes) :
    t.perform (.respond status body) = (.failed IoFault.rawBytesSent, t) := by
  rw [perform_respond, respond_of_phase later]
  rfl

omit [Travelled σ] in
theorem sink_put (data : Bytes) (t : Takeover σ) :
    (t.put data).2.sink = (writeAll data t.sink).sink := by
  rw [put]
  split <;> rfl

variable [LawfulSink σ]

theorem put_gives (data : Bytes) (t : Takeover σ) :
    ∃ sent, (t.put data).2.given = t.given ++ sent ∧ sent <+: data ∧
      (sent = data ↔ (t.put data).1 = .done ()) := by
  have outcome : (t.put data).1 = (writeAll data t.sink).outcome := by
    rw [put]
    split
    · next done => exact done.symm
    · rfl
  rw [given, outcome, sink_put]
  exact writeAll_gives data t.sink

/-- An operation that is not allowed to write leaves nothing. -/
theorem given_of_not_allows {t : Takeover σ} {op : Operation} (refused : ¬ t.allows op) :
    (t.perform op).2.given = t.given := by
  cases op with
  | field name value =>
    exact congrArg (fun s => (traffic s).given) (t.perform_field name value).2
  | status s => rfl
  | flush => exact t.given_flush
  | close => exact t.given_close
  | respond status body =>
    have later : t.phase ≠ .negotiating := fun here => refused (beq_iff_eq.mpr here)
    rw [perform_respond_of_phase later]
  | write data =>
    have closed : t.phase = .closed := not_not.mp fun still => refused (bne_iff_ne.mpr still)
    rw [perform_write_of_closed closed]

/-- **What an operation leaves in the sink is its block.** -/
theorem given_perform (t : Takeover σ) (op : Operation) :
    (t.perform op).2.given = t.given ++ (t.block? op).toList.flatMap Block.sent ∧
      ∀ b ∈ t.block? op, b.Sound := by
  rw [block?]
  split
  · next allowed =>
    obtain ⟨sent, given, cut, done⟩ := put_gives (op.payload t.fields) t
    rw [block, perform_of_allows allowed, given, List.drop_left]
    refine ⟨by simp, fun b made => ?_⟩
    obtain rfl := Option.some_inj.mp made
    exact ⟨⟨t.fields, rfl⟩, cut, op.success_or_isBroken _,
      done.trans Operation.effect_eq_success_iff.symm⟩
  · next refused => exact ⟨by simpa using given_of_not_allows refused, nofun⟩

/-! ## Scripts -/

/-- The sink has been given the blocks, one behind the other. -/
theorem given_after (t : Takeover σ) (script : List Operation) :
    (t.after script).given = t.given ++ (t.blocks script).flatMap Block.sent := by
  induction script generalizing t with
  | nil => exact (List.append_nil _).symm
  | cons op script ih =>
    calc (t.after (op :: script)).given
      _ = (t.perform op).2.given ++ ((t.perform op).2.blocks script).flatMap Block.sent := ih _
      _ = t.given ++ (t.blocks (op :: script)).flatMap Block.sent := by
        rw [(given_perform t op).1, blocks, List.flatMap_append, List.append_assoc]

theorem sound_of_mem_blocks {t : Takeover σ} {script : List Operation} {b : Block}
    (left : b ∈ t.blocks script) : b.Sound := by
  induction script generalizing t with
  | nil => cases left
  | cons op script ih =>
    rw [blocks, List.mem_append, Option.mem_toList] at left
    obtain now | later := left
    · exact (given_perform t op).2 b now
    · exact ih later

omit [LawfulSink σ] in
theorem blocks_append (t : Takeover σ) (script more : List Operation) :
    t.blocks (script ++ more) = t.blocks script ++ (t.after script).blocks more := by
  induction script generalizing t with
  | nil => rfl
  | cons op script ih =>
    rw [List.cons_append, blocks, ih, ← List.append_assoc]
    rfl

/-! ## Behind a close -/

omit [Travelled σ] [LawfulSink σ] in
theorem closed_perform {t : Takeover σ} (closed : t.phase = .closed) (op : Operation) :
    (t.perform op).2.phase = .closed := by
  cases op with
  | field name value => exact (t.perform_field name value).1.trans closed
  | status s => exact closed
  | flush => exact closed
  | close => exact t.phase_close
  | respond status body =>
    have later : t.phase ≠ .negotiating := by rw [closed]; nofun
    rwa [perform_respond_of_phase later]
  | write data => rwa [perform_write_of_closed closed]

omit [LawfulSink σ] in
theorem blocks_of_closed {t : Takeover σ} (closed : t.phase = .closed) (script : List Operation) :
    t.blocks script = [] := by
  induction script generalizing t with
  | nil => rfl
  | cons op script ih =>
    have refused : t.allows op = false := by
      cases op <;> simp [allows, closed]
    rw [blocks, block?, refused, ih (closed_perform closed op)]
    rfl

omit [LawfulSink σ] in
/-- Behind a close no operation leaves a block. -/
theorem blocks_close (t : Takeover σ) (script more : List Operation) :
    t.blocks (script ++ .close :: more) = t.blocks script := by
  have closed : ((t.after script).perform .close).2.phase = .closed := phase_close _
  rw [blocks_append, blocks, blocks_of_closed closed]
  exact List.append_nil _

/-! ## Stored fields -/

omit [Travelled σ] [LawfulSink σ] in
theorem put_withFields (t : Takeover σ) (other : Fields) (data : Bytes) :
    (t.withFields other).put data = ((t.put data).1, (t.put data).2.withFields other) := by
  simp only [put, withFields]
  cases (writeAll data t.sink).outcome <;> rfl

omit [Travelled σ] [LawfulSink σ] in
theorem close_withFields (t : Takeover σ) (other : Fields) :
    (t.withFields other).close = (t.close.1, t.close.2.withFields other) := by
  by_cases closed : t.phase = .closed
  · rw [close, close, phase_withFields, if_pos closed, if_pos closed]
  · rw [close, close, phase_withFields, if_neg closed, if_neg closed, sink_withFields]
    obtain ⟨r, sink⟩ := ByteSink.flush t.sink
    cases r <;> rfl

omit [Travelled σ] [LawfulSink σ] in
/-- Other fields change nothing about an operation, unless it stores one or sends them. -/
theorem perform_withFields {t : Takeover σ} {op : Operation} (other : Fields)
    (stores : ¬ op.isField) (raw : t.allows op → ¬ op.isFramed) :
    (t.withFields other).perform op = ((t.perform op).1, (t.perform op).2.withFields other) := by
  by_cases allowed : t.allows op
  · have also : (t.withFields other).allows op := by rwa [allows_withFields]
    rw [perform_of_allows allowed, perform_of_allows also, fields_withFields, put_withFields,
      Operation.payload_of_raw (raw allowed) t.fields]
  · cases op with
    | field => exact absurd rfl stores
    | status s => rfl
    | flush => rfl
    | close => rw [perform, perform, close_withFields]
    | respond status body =>
      have later : t.phase ≠ .negotiating := fun here => allowed (beq_iff_eq.mpr here)
      rw [perform_respond_of_phase later, perform_respond_of_phase]
      rwa [phase_withFields]
    | write data =>
      have closed : t.phase = .closed := not_not.mp fun still => allowed (bne_iff_ne.mpr still)
      rw [perform_write_of_closed closed, perform_write_of_closed]
      rwa [phase_withFields]

omit [LawfulSink σ] in
theorem block?_withFields {t : Takeover σ} {op : Operation} (other : Fields)
    (stores : ¬ op.isField) (raw : t.allows op → ¬ op.isFramed) :
    (t.withFields other).block? op = t.block? op := by
  rw [block?, block?, allows_withFields]
  by_cases allowed : t.allows op
  · rw [if_pos allowed, if_pos allowed, block, block, perform_withFields other stores raw,
      fields_withFields, Operation.payload_of_raw (raw allowed) t.fields]
    rfl
  · rw [if_neg allowed, if_neg allowed]

omit [LawfulSink σ] in
/-- **Fields that are stored change no block, unless a framed response is among the blocks.**
Storing one leaves no block itself. -/
theorem blocks_withFields {t : Takeover σ} {script : List Operation} (other : Fields)
    (raw : ∀ b ∈ t.blocks script, ¬ b.op.isFramed) :
    (t.withFields other).blocks (script.filter (!·.isField)) = t.blocks script := by
  induction script generalizing t with
  | nil => rfl
  | cons op script ih =>
    rw [blocks] at raw ⊢
    have later := ih fun b left => raw b (List.mem_append_right _ left)
    by_cases stores : op.isField
    · rw [List.filter_cons_of_neg (by simp [stores])]
      cases op with
      | status | write | respond | flush | close => cases stores
      | field name value =>
        obtain ⟨phase, sink⟩ := t.perform_field name value
        have same : (t.perform (.field name value)).2.withFields other = t.withFields other := by
          rw [withFields, phase, sink, withFields]
        rw [same] at later
        exact later
    · have here : t.allows op → ¬ op.isFramed := fun allowed => by
        have left : t.block op ∈ t.block? op := if_pos allowed
        exact raw (t.block op) (List.mem_append_left _ (Option.mem_toList.mpr left))
      rw [List.filter_cons_of_pos (by simp [stores]), blocks, block?_withFields other stores here,
        perform_withFields other stores here, later]

/-! ## Whole responses -/

omit [ByteSink σ] [Travelled σ] [LawfulSink σ] in
theorem fault?_eq_none_iff {r : Responding σ} : r.fault? = none ↔ r.outcome = .done () := by
  rw [Responding.fault?]
  split
  · next done => exact iff_of_true rfl done
  · next failed => exact iff_of_false nofun (by rw [failed]; nofun)
  · next stalled => exact iff_of_false nofun (by rw [stalled]; nofun)

omit [Travelled σ] [LawfulSink σ] in
/-- A takeover that has just begun writes into its sink. -/
theorem sink_write (data : Bytes) (s : σ) :
    (({ sink := s } : Takeover σ).write data).2.sink = (writeAll data s).sink := by
  obtain ⟨closed, _⟩ | put := write_cases data ({ sink := s } : Takeover σ)
  · cases closed
  · rw [put, sink_put]

/-- A whole response is written in the same way, and flushed if that is done. -/
theorem respondFrom_gives (response : Bytes) (s : σ) :
    ∃ sent, (traffic (respondFrom response s).sink).given = (traffic s).given ++ sent ∧
      sent <+: response ∧
      ((respondFrom response s).fault? = none ↔
        sent = response ∧ (({ sink := s } : Takeover σ).write response).2.flush.1 = .done ()) := by
  obtain ⟨sent, given, cut, done⟩ := writeAll_gives response s
  refine ⟨sent, ?_, cut, ?_⟩
  · rw [← given, respondFrom]
    split
    · exact (LawfulSink.flush_rests _).2.2.1
    · rfl
  · rw [fault?_eq_none_iff, flush, sink_write, done, respondFrom]
    split
    · next finished => exact (and_iff_right finished).symm
    · next unfinished => exact iff_of_false unfinished fun all => unfinished all.1

/-- **Whatever a sink does, a script leaves its blocks there, no field outside a framed response and
nothing behind a close; and of a whole response a first part is left, without a fault exactly if it
is all of it and the flush was done.** -/
theorem script_leaves_blocks (t : Takeover σ) (script : List Operation) :
    (t.after script).given = t.given ++ (t.blocks script).flatMap Block.sent ∧
      (∀ b ∈ t.blocks script, b.Sound) ∧
      (∀ other, (∀ b ∈ t.blocks script, ¬ b.op.isFramed) →
        (t.withFields other).blocks (script.filter (!·.isField)) = t.blocks script) ∧
      (∀ more, (t.after (script ++ .close :: more)).given = (t.after script).given) ∧
      ∀ response, ∃ sent,
        (traffic (respondFrom response t.sink).sink).given = t.given ++ sent ∧
          sent <+: response ∧
          ((respondFrom response t.sink).fault? = none ↔
            sent = response ∧
              (({ sink := t.sink } : Takeover σ).write response).2.flush.1 = .done ()) := by
  refine ⟨given_after t script, fun b left => sound_of_mem_blocks left,
    fun other raw => blocks_withFields other raw, fun more => ?_,
    fun response => respondFrom_gives response t.sink⟩
  rw [given_after, given_after, blocks_close]

end

/-- A sink that takes three bytes at a time stalls behind four, and again behind nine and fifteen,
where its writer gives up: the last bytes that are written break off in the middle.  The stored
field goes nowhere, and behind the close nothing is written.  A whole response of fifteen bytes is
in time, and a longer one is not. -/
theorem script_leaves_blocks_behind_stalls :
    let sink : Patient Limited :=
      { stream := { limit := some 4, perWrite := some 3, stalls := true }
        acts := [Limited.makeRoom 5, Limited.makeRoom 6] }
    let t : Takeover (Patient Limited) := { sink }
    let script : List Operation :=
      [.write (Bytes.ascii "raw"), .flush,
        .field (Bytes.ascii "x-reason") (Bytes.ascii "busy"),
        .write (Bytes.ascii "bytes"), .respond .badGateway [],
        .write (Bytes.ascii "past all limits"), .close, .write (Bytes.ascii "late")]
    ((t.blocks script).map fun b => (b.sent, b.effect)) =
        [(Bytes.ascii "raw", .wrote 3), (Bytes.ascii "bytes", .wrote 5),
          (Bytes.ascii "past al", .stalled)] ∧
      (t.after script).given = Bytes.ascii "rawbytespast al" ∧
      (respondFrom (Bytes.ascii "fifteen letters") sink).fault? = none ∧
      (respondFrom (Bytes.ascii "sixteen letters!") sink).fault? =
        some (.timeout .replyWritten) := by
  intro sink t script
  exact ⟨by decide +kernel, (script_leaves_blocks t script).1.trans (by decide +kernel),
    by decide +kernel, by decide +kernel⟩

end Wiretap.Message.Takeover
