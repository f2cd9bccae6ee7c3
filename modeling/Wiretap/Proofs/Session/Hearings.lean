import Mathlib.Tactic.Common
import Wiretap.Proofs.Transport.Peered
import Wiretap.Session.Crash
import Wiretap.Session.Hearing

/-!
# Executors only observe

A call through the handle of an executor returns, whether the executor returns, rejects or panics
(`deliver_eq`), so a connection that is heard goes on as it would without (`Hearing.step_eq`).  Two
runs of one connection that differ only in who hears of it stay alike: what crosses the streams, what
other hosts are asked, the outcome and what is counted are the same (`Hearing.alike_of_run`).
-/

namespace Wiretap.Observer.Executor

set_option autoImplicit false

/-- **A call through the handle returns, whatever the executor does**, and leaves what a contained
call leaves. -/
theorem deliver_eq (e : Executor) (history : List (Peer × HookCall)) (peer : Peer) (c : HookCall) :
    e.deliver history peer c = ⟨(e.call peer c history).2, .returned ()⟩ ∧
      remember history peer c = (e.call peer c history).1 := by
  rw [deliver, remember, call]
  cases c.isMade with
  | false => exact ⟨rfl, rfl⟩
  | true =>
    refine ⟨?_, rfl⟩
    dsimp only [catchPanic, invoke]
    cases (e.respond history peer c).ending with
    | returned => exact congrArg (Conclusion.mk · _) (List.append_nil _).symm
    | rejected why => rfl
    | panicked => rfl
end Wiretap.Observer.Executor

namespace Wiretap.Session

set_option autoImplicit false

open Observer (Ended Executor HookCall Peer)
open Transport (ByteStream)

namespace Record

variable (executor : Option Executor) (peer : Peer)

/-- **No panic gets through**, and what is recorded is the note. -/
theorem hear_eq (r : Record) (n : Note) :
    r.hear executor peer n = .returned (r.note executor peer n) := by
  cases n with
  | log entry => rfl
  | metric m => rfl
  | hook c =>
    cases executor with
    | none => rfl
    | some e =>
      obtain ⟨delivered, remembered⟩ := e.deliver_eq r.history peer c
      rw [hear, delivered]
      exact congrArg (fun history => Ended.returned { r with
        history, logs := r.logs ++ (e.call peer c r.history).2 }) remembered

theorem hearAll_eq (r : Record) (ns : List Note) :
    r.hearAll executor peer ns = .returned (ns.foldl (note executor peer) r) := by
  induction ns generalizing r with
  | nil => rfl
  | cons n ns ih =>
    rw [hearAll, hear_eq]
    exact ih (r.note executor peer n)

variable {executor peer}

/-- What is counted does not depend on who hears. -/
theorem counted_note {other : Option Executor} {r s : Record} (same : r.counted = s.counted)
    (n : Note) : (r.note executor peer n).counted = (s.note other peer n).counted := by
  cases n with
  | log entry => exact same
  | metric m => exact congrArg (· ++ [m]) same
  | hook c =>
    have uncounted (executor : Option Executor) (r : Record) :
        (r.note executor peer (.hook c)).counted = r.counted := by
      cases executor <;> rfl
    rw [uncounted, uncounted, same]

theorem counted_notes {other : Option Executor} {r s : Record} (same : r.counted = s.counted)
    (ns : List Note) :
    (ns.foldl (note executor peer) r).counted = (ns.foldl (note other peer) s).counted := by
  induction ns generalizing r s with
  | nil => exact same
  | cons n ns ih => exact ih (counted_note same n)

end Record

namespace Hearing

variable {σ τ : Type}

/-- Two connections are alike but for what their executors did. -/
structure Alike (a b : Hearing σ τ) : Prop where
  /-- The streams with all that has crossed them, the questions to other hosts with their answers,
  what has crossed a relay, and what is left to be done, in the end the outcome. -/
  ensemble : a.ensemble = b.ensemble
  counted : a.record.counted = b.record.counted
  goesOn : a.lost = false ∧ b.lost = false

variable [ByteStream σ] [ByteStream τ] {c : Context}

/-- **A connection that is heard goes on as it would without**, and is never lost. -/
theorem step_eq {h : Hearing σ τ} (goesOn : h.lost = false) (executor : Option Executor)
    (q : Cue σ τ) :
    h.step executor c q = (h.ensemble.step c q).map fun ensemble =>
      let news := (ensemble.told.drop h.ensemble.told.length).map (·.2)
      { h with ensemble, record := news.foldl (Record.note executor c.peer) h.record } := by
  rw [step, goesOn]
  simp only [Record.hearAll_eq]
  rfl

/-- Whoever hears of it, the same things can happen to a connection, and leave it alike. -/
theorem alike_step {a b : Hearing σ τ} (alike : a.Alike b) (x y : Option Executor)
    (q : Cue σ τ) : Option.Rel Alike (a.step x c q) (b.step y c q) := by
  rw [step_eq alike.goesOn.1, step_eq alike.goesOn.2, alike.ensemble]
  cases b.ensemble.step c q with
  | none => exact .none
  | some ensemble => exact .some ⟨rfl, Record.counted_notes alike.counted _, alike.goesOn⟩

theorem alike_run {a b : Hearing σ τ} (alike : a.Alike b) (x y : Option Executor)
    (cues : List (Cue σ τ)) : Option.Rel Alike (a.run x c cues) (b.run y c cues) := by
  induction cues generalizing a b with
  | nil => exact .some alike
  | cons q cues ih =>
    rw [run, run, List.foldlM_cons, List.foldlM_cons]
    have one := alike_step (c := c) alike x y q
    generalize a.step x c q = went at one ⊢
    generalize b.step y c q = other at one ⊢
    cases one with
    | none => exact .none
    | some alike => exact ih alike

/-- **Executors only observe.**  Whatever happens to a connection, in whatever order and with
whatever settings, and whatever two executors do or have done before, or with none, the same can
happen under either, and leaves the connection alike: the same bytes have been sent to the client and
to other hosts, the outcome is the same, and the same has been counted.

It is the calls that keep apart what is heard from what goes on (`deliver_eq`), so the same holds of
any other dialogue in the place of `attendCaught`. -/
theorem alike_of_run (x y : Option Executor) (before after : List (Peer × HookCall))
    (panic : Option Nat) (bufferSize : Nat) (stream : σ) (cues : List (Cue σ τ)) :
    let ensemble : Ensemble σ τ := .start bufferSize stream (attendCaught panic c)
    Option.Rel Alike
      (run x c { ensemble, record := { history := before } } cues)
      (run y c { ensemble, record := { history := after } } cues) := by
  intro ensemble
  apply alike_run
  exact ⟨rfl, rfl, rfl, rfl⟩

/-- An executor that rejects every connection at its start, and panics whatever else it is told. -/
def stubborn : Executor where
  respond _ _ c :=
    match c with
    | .started => { ending := .rejected "no" }
    | _ => { ending := .panicked }

/-- A client that closes its end of the connection without having sent anything. -/
def departed : Transport.Peered where
  duplex := ⟨{ capacity := 64, closed := true }, { capacity := 64 }⟩

/-- All that happens to the connection of such a client, which lasts for seven milliseconds. -/
def departure : List (Cue Transport.Peered Transport.Peered) :=
  .replicate 6 (.dialogue .go) ++ .dialogue (.answer ⟨.elapsed, (7 : Nat)⟩) ::
    .replicate 2 (.dialogue .go)

/-- An executor that rejects one call and panics at two others is called all three times, with its
failures in the log, and the connection comes to what it comes to without. -/
theorem alike_of_stubborn :
    let c : Context := ⟨{ loggingEnabled := false }, ⟨1, "127.0.0.1:5555"⟩⟩
    let attended : Ensemble _ Transport.Peered := .start 64 departed (attendCaught none c)
    let heard (h : Hearing _ _) := (h.record.history.map (·.2), h.record.logs.map (·.message))
    Option.Rel Alike (run (some stubborn) c { ensemble := attended } departure)
        (run none c { ensemble := attended } departure) ∧
      (run (some stubborn) c { ensemble := attended } departure).map heard =
        some ([.ended 7, .handled, .started], ["Connection start hook failed",
          "Hook executor panicked", "Peer closed before sending any data",
          "Hook executor panicked"]) ∧
      (run none c { ensemble := attended } departure).map heard =
        some ([], ["Peer closed before sending any data"]) :=
  ⟨alike_of_run (some stubborn) none [] [] none 64 departed departure, rfl, rfl⟩

end Hearing

end Wiretap.Session
