import HostBridge.Traced
import Mathlib.Algebra.Order.Group.Multiset

/-!
# Accounts of memory

A block that is obtained leaves an event with what it is for and with its size, and so does a block
that is given back. From the events alone one can therefore tell which blocks are out. This module
says when the events of an operation balance: what was out before, together with what it obtained,
is what it gave back together with what is out after it, and at no point was a block given back that
was not out.

## Main definitions

* `Event.obtained?`, `Event.returned?` and `Event.growth?`: what an event says about blocks;
* `Account.obtained`, `Account.returned` and `Account.growths`: what a list of events says;
* `Account.Balanced`: events lead from some blocks that are out to others;
* `Account.Made`: the events of an attempt to make something.

## Main results

* `Account.Balanced.append`: balanced events may follow each other;
* `Account.Balanced.frame`: blocks that the events do not speak of stay out.
-/

namespace HostBridge

/-- A block as it stands in the books: what it is for, and its size in bytes. -/
abbrev Charge := String × Nat

namespace Event

/-- The block that was obtained. -/
def obtained? : Event → Option Charge
  | allocated entity size => some (entity, size)
  | _ => none

/-- The block that was given back. -/
def returned? : Event → Option Charge
  | released entity size => some (entity, size)
  | _ => none

/-- The kind of a buffer that grew, with its capacities before and after. -/
def growth? : Event → Option (Kind × Nat × Nat)
  | bufferGrown kind old new => some (kind, old, new)
  | _ => none

/-- The event says nothing about blocks. -/
def Silent (event : Event) : Prop :=
  event.obtained? = none ∧ event.returned? = none ∧ event.growth? = none

end Event

namespace Account

/-- The blocks that were obtained. -/
def obtained (events : List Event) : Multiset Charge := events.filterMap Event.obtained?

/-- The blocks that were given back. -/
def returned (events : List Event) : Multiset Charge := events.filterMap Event.returned?

/-- The growths of buffers, in their order. -/
def growths (events : List Event) : List (Kind × Nat × Nat) := events.filterMap Event.growth?

@[simp]
theorem obtained_nil : obtained [] = 0 := rfl

@[simp]
theorem returned_nil : returned [] = 0 := rfl

@[simp]
theorem growths_nil : growths [] = [] := rfl

@[simp]
theorem growths_cons (event : Event) (events : List Event) :
    growths (event :: events) = event.growth?.toList ++ growths events := by
  cases hgrowth : event.growth? <;> simp [growths, hgrowth]

@[simp]
theorem obtained_append (first second : List Event) :
    obtained (first ++ second) = obtained first + obtained second := by
  simp [obtained, ← Multiset.coe_add]

@[simp]
theorem returned_append (first second : List Event) :
    returned (first ++ second) = returned first + returned second := by
  simp [returned, ← Multiset.coe_add]

@[simp]
theorem growths_append (first second : List Event) :
    growths (first ++ second) = growths first ++ growths second := by
  simp [growths]

/-- What was given back at some point has been given back at the end. -/
theorem returned_mono {part events : List Event} (h : part <+: events) :
    returned part ≤ returned events := by
  obtain ⟨rest, rfl⟩ := h
  rw [returned_append]
  exact Multiset.le_add_right _ _

section Silent

variable {events : List Event} (h : ∀ event ∈ events, event.Silent)
include h

theorem obtained_of_silent : obtained events = 0 := by
  rw [obtained, List.filterMap_eq_nil_iff.mpr fun event hmem => (h event hmem).1]
  rfl

theorem returned_of_silent : returned events = 0 := by
  rw [returned, List.filterMap_eq_nil_iff.mpr fun event hmem => (h event hmem).2.1]
  rfl

theorem growths_of_silent : growths events = [] :=
  List.filterMap_eq_nil_iff.mpr fun event hmem => (h event hmem).2.2

end Silent

/-- Events lead from the blocks `before`, which are out, to the blocks `after`. Whatever is given
back on the way was out before or was obtained on the way there. -/
structure Balanced (events : List Event) (before after : Multiset Charge) : Prop where
  total : before + obtained events = returned events + after
  covered : ∀ part, part <+: events → returned part ≤ before + obtained part

namespace Balanced

variable {first second events : List Event} {before middle after : Multiset Charge}

/-- Events that say nothing about blocks change nothing. -/
theorem of_silent (h : ∀ event ∈ events, event.Silent) (held : Multiset Charge) :
    Balanced events held held where
  total := by rw [obtained_of_silent h, returned_of_silent h, add_zero, zero_add]
  covered := by
    intro part hpart
    have hsilent : ∀ event ∈ part, event.Silent := fun event hmem => h event (hpart.subset hmem)
    rw [returned_of_silent hsilent]
    exact Multiset.zero_le _

theorem nil (held : Multiset Charge) : Balanced [] held held :=
  of_silent (fun _ hmem => absurd hmem List.not_mem_nil) held

/-- Balanced events may follow each other. -/
theorem append (h : Balanced first before middle) (h' : Balanced second middle after) :
    Balanced (first ++ second) before after where
  total := by
    calc before + obtained (first ++ second)
        = before + obtained first + obtained second := by rw [obtained_append, add_assoc]
      _ = returned first + (middle + obtained second) := by rw [h.total, add_assoc]
      _ = returned (first ++ second) + after := by rw [h'.total, returned_append, add_assoc]
  covered := by
    intro part hpart
    -- a point within the second events comes after all of the first ones
    rcases List.prefix_or_prefix_of_prefix hpart (List.prefix_append first second) with
      hfirst | ⟨rest, rfl⟩
    · exact h.covered part hfirst
    · have hrest : rest <+: second := (List.prefix_append_right_inj first).mp hpart
      calc returned (first ++ rest)
          = returned first + returned rest := returned_append first rest
        _ ≤ returned first + (middle + obtained rest) :=
            add_le_add_right (h'.covered rest hrest) _
        _ = before + obtained (first ++ rest) := by
            rw [← add_assoc, ← h.total, obtained_append, add_assoc]

/-- Blocks that the events do not speak of stay out. -/
theorem frame (h : Balanced events before after) (others : Multiset Charge) :
    Balanced events (before + others) (after + others) where
  total := by rw [add_right_comm, h.total, add_assoc]
  covered := by
    intro part hpart
    rw [add_right_comm]
    exact (h.covered part hpart).trans (Multiset.le_add_right _ _)

/-- What is obtained comes on top of what is out. -/
theorem gain (h : Balanced events 0 after) (held : Multiset Charge) :
    Balanced events held (held + after) := by
  simpa [add_comm] using h.frame held

/-- What is given back leaves the rest out. -/
theorem loss (h : Balanced events before 0) (held : Multiset Charge) :
    Balanced events (before + held) held := by
  simpa using h.frame held

/-- An event by which no block is obtained or given back may stand anywhere. -/
theorem other_cons {event : Event} (hobtained : event.obtained? = none)
    (hreturned : event.returned? = none) (h : Balanced events before after) :
    Balanced (event :: events) before after := by
  have hkept : Balanced [event] before before := by
    refine ⟨by simp [obtained, returned, hobtained, hreturned], fun part hpart => ?_⟩
    have hnone : returned [event] = 0 := by simp [returned, hreturned]
    exact (returned_mono hpart).trans (hnone ▸ Multiset.zero_le _)
  exact hkept.append h

/-- A block that is obtained is out from then on. -/
theorem allocated_cons {entity : String} {size : Nat}
    (h : Balanced events (before + {(entity, size)}) after) :
    Balanced (.allocated entity size :: events) before after := by
  have hobtained : Balanced [.allocated entity size] before (before + {(entity, size)}) := by
    refine ⟨(zero_add _).symm, fun part hpart => ?_⟩
    exact (returned_mono hpart).trans (Multiset.zero_le _)
  exact hobtained.append h

/-- A block that is out may be given back. -/
theorem released_cons {entity : String} {size : Nat} (h : Balanced events before after) :
    Balanced (.released entity size :: events) (before + {(entity, size)}) after := by
  have hgiven : Balanced [.released entity size] (before + {(entity, size)}) before := by
    refine ⟨(add_zero _).trans (add_comm _ _), fun part hpart => ?_⟩
    calc returned part ≤ {(entity, size)} := returned_mono hpart
      _ ≤ before + {(entity, size)} := Multiset.le_add_left _ _
      _ ≤ before + {(entity, size)} + obtained part := Multiset.le_add_right _ _
  exact hgiven.append h

end Balanced

/-- Events that leave all blocks as they were, and report no growth. -/
structure Idle (events : List Event) : Prop where
  balanced : Balanced events 0 0
  growths_eq : growths events = []

namespace Idle

variable {first second events : List Event}

theorem of_silent (h : ∀ event ∈ events, event.Silent) : Idle events :=
  ⟨Balanced.of_silent h 0, growths_of_silent h⟩

theorem nil : Idle [] := ⟨Balanced.nil 0, rfl⟩

theorem single {event : Event} (h : event.Silent) : Idle [event] :=
  of_silent fun _ hmem => List.mem_singleton.mp hmem ▸ h

theorem append (h : Idle first) (h' : Idle second) : Idle (first ++ second) :=
  ⟨h.balanced.append h'.balanced, by rw [growths_append, h.growths_eq, h'.growths_eq]; rfl⟩

/-- Blocks that are out stay out. -/
theorem framed (h : Idle events) (held : Multiset Charge) : Balanced events held held := by
  simpa using h.balanced.frame held

end Idle

/-- Events by which something was made: it is as it should be, and its blocks were obtained for it.
An attempt that failed has given back whatever it obtained. -/
def Made {α : Type} (Good : α → Prop) (charges : α → Multiset Charge) (outcome : Except Fault α)
    (events : List Event) : Prop :=
  match outcome with
  | .ok made => Good made ∧ Balanced events 0 (charges made) ∧ growths events = []
  | .error _ => Idle events

namespace Made

variable {α : Type} {Good : α → Prop} {charges : α → Multiset Charge} {outcome : Except Fault α}
  {first second events : List Event}

theorem good {made : α} (h : Made Good charges (.ok made) events) : Good made := h.1

/-- If all that can be made has no blocks, nothing was obtained. -/
theorem idle (h : Made Good (fun _ => 0) outcome events) : Idle events := by
  cases outcome with
  | error fault => exact h
  | ok made => exact ⟨h.2.1, h.2.2⟩

/-- Something without blocks was made, or there was a failure. Either way nothing was obtained. -/
theorem of_idle (h : Idle events)
    (hgood : ∀ made, outcome = .ok made → Good made ∧ charges made = 0) :
    Made Good charges outcome events := by
  cases outcome with
  | error fault => exact h
  | ok made =>
    obtain ⟨hmade, hcharges⟩ := hgood made rfl
    exact ⟨hmade, hcharges ▸ h.balanced, h.growths_eq⟩

/-- Other events may come first. -/
theorem idle_append (h : Idle first) (h' : Made Good charges outcome second) :
    Made Good charges outcome (first ++ second) := by
  cases outcome with
  | error fault => exact h.append h'
  | ok made =>
    obtain ⟨hgood, hbalanced, hgrowths⟩ := h'
    exact ⟨hgood, h.balanced.append hbalanced, by rw [growths_append, h.growths_eq, hgrowths]; rfl⟩

/-- Other events may come last. -/
theorem append_idle (h : Made Good charges outcome first) (h' : Idle second) :
    Made Good charges outcome (first ++ second) := by
  cases outcome with
  | error fault => exact Idle.append h h'
  | ok made =>
    obtain ⟨hgood, hbalanced, hgrowths⟩ := h
    refine ⟨hgood, hbalanced.append (h'.framed _), ?_⟩
    rw [growths_append, hgrowths, h'.growths_eq]
    rfl

end Made

end Account

end HostBridge
