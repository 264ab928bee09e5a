import HostBridge.Proofs.Buffer.Capacity
import HostBridge.Proofs.Marshal.Statistics
import HostBridge.Proofs.Session.Action
import HostBridge.Proofs.Session.Settings

/-!
# Settings and capacities in one step

An action leaves the settings alone or reads them, and changes no capacity but by doubling it. The
capacity of a buffer that it makes comes from the settings, from the buffer that is copied, or from
whoever asks for it. Buffers of the first kind are *standard*, and so are copies of standard
buffers: if the settings are valid, their capacities are powers of two.

## Main definitions

* `Resizes`: what a step may do to the capacities of buffers;
* `Advances`: what a step may do to settings and capacities;
* `Action.isStandard`: the actions that make standard buffers;
* `Bridge.Regulated`: valid settings, and standard buffers with the right capacities.

## Main results

* `Request.advances`, `Action.advances`: what a call through handles and what any action does to
  settings and capacities.
-/

namespace HostBridge

/-! ## Capacities from one step to the next -/

theorem Store.get?_add_eq_some {α : Type} {store : Store α} {value found : α} {handle : Nat}
    (h : (store.add value).2.get? handle = some found) :
    store.get? handle = some found ∨ handle = store.upcoming ∧ found = value := by
  rw [get?, add, List.lookup_append, Option.or_eq_some_iff] at h
  refine h.imp_right fun hsecond => ?_
  have hnew := hsecond.2
  by_cases hhandle : handle = store.upcoming
  · rw [hhandle, List.lookup_cons_self] at hnew
    exact ⟨hhandle, (Option.some.inj hnew).symm⟩
  · rw [List.lookup_cons, beq_eq_false_iff_ne.mpr hhandle] at hnew
    cases hnew

/-- What one step may do to the capacities of buffers. A buffer that is there after it was there
before, with a capacity that was doubled if it changed, or is new, with a capacity that is
`Fresh`. -/
structure Resizes (Fresh : Nat → Prop) (before after : Store Buffer) : Prop where
  upcoming_le : before.upcoming ≤ after.upcoming
  live : ∀ handle next, after.get? handle = some next →
    (∃ buffer, before.get? handle = some buffer ∧ Doubles buffer.capacity next.capacity) ∨
      before.upcoming ≤ handle ∧ Fresh next.capacity

namespace Resizes

variable {Fresh : Nat → Prop} {store : Store Buffer} {handle : Nat} {buffer next : Buffer}

protected theorem refl (store : Store Buffer) : Resizes Fresh store store where
  upcoming_le := Nat.le_refl _
  live _ next hnext := Or.inl ⟨next, hnext, Doubles.refl _⟩

theorem of_add (hfresh : Fresh buffer.capacity) : Resizes Fresh store (store.add buffer).2 where
  upcoming_le := Nat.le_succ _
  live := by
    intro handle next hnext
    rcases Store.get?_add_eq_some hnext with hold | ⟨rfl, rfl⟩
    · exact Or.inl ⟨next, hold, Doubles.refl _⟩
    · exact Or.inr ⟨Nat.le_refl _, hfresh⟩

theorem of_set (hlive : store.get? handle = some buffer)
    (hdoubles : Doubles buffer.capacity next.capacity) :
    Resizes Fresh store (store.set handle next) where
  upcoming_le := Nat.le_refl _
  live := by
    intro other found hfound
    refine Or.inl ?_
    by_cases hother : other = handle
    · subst hother
      rw [Store.get?_set_self hlive] at hfound
      exact ⟨buffer, hlive, Option.some.inj hfound ▸ hdoubles⟩
    · rw [Store.get?_set_of_ne store next hother] at hfound
      exact ⟨found, hfound, Doubles.refl _⟩

theorem of_erase (store : Store Buffer) (handle : Nat) :
    Resizes Fresh store (store.erase handle) where
  upcoming_le := Nat.le_refl _
  live := by
    intro other found hfound
    by_cases hother : other = handle
    · rw [hother, Store.get?_erase_self] at hfound
      cases hfound
    · rw [Store.get?_erase_of_ne hother] at hfound
      exact Or.inl ⟨found, hfound, Doubles.refl _⟩

end Resizes

/-- What one step may do to settings and capacities. -/
structure Advances (Fresh : Nat → Prop) (bridge after : Bridge) : Prop where
  settings : bridge.settings.Settles after.settings
  buffers : Resizes Fresh bridge.buffers after.buffers

namespace Advances

variable {Fresh : Nat → Prop} {bridge after : Bridge}

/-- No buffer is touched, and the settings are read at most. -/
theorem of_same (hread : bridge.settings.Read after.settings)
    (hbuffers : after.buffers = bridge.buffers) : Advances Fresh bridge after :=
  ⟨hread.settles, hbuffers ▸ Resizes.refl _⟩

/-- A write changes the bytes of a buffer, not its capacity. -/
theorem of_setRegion (place : Place) (bytes : Bytes) :
    Advances Fresh bridge (bridge.setRegion place bytes) := by
  cases place with
  | block id => exact of_same (Or.inl rfl) rfl
  | object ref => exact of_same (Or.inl rfl) rfl
  | buffer handle =>
    cases hlive : bridge.buffers.get? handle with
    | none =>
      simp only [Bridge.setRegion, hlive]
      exact of_same (Or.inl rfl) rfl
    | some buffer =>
      simp only [Bridge.setRegion, hlive]
      exact ⟨Or.inl rfl, .of_set hlive (Doubles.refl _)⟩
  | array handle =>
    simp only [Bridge.setRegion]
    split <;> exact of_same (Or.inl rfl) rfl

theorem of_withBuffer {handle : Nat} {next : Buffer → Call Unit}
    (h : ∀ buffer, bridge.buffers.get? handle = some buffer →
      Advances Fresh bridge (next buffer bridge).result.2) :
    Advances Fresh bridge (Call.withBuffer handle next bridge).result.2 := by
  have hget (rest : Bridge → Call Unit) : (get >>= rest) bridge = rest bridge bridge := rfl
  rw [Call.withBuffer, hget]
  cases hlive : bridge.buffers.get? handle with
  | none => exact of_same (Or.inl rfl) rfl
  | some buffer => exact h buffer hlive

theorem of_withArray {handle : Nat} {next : Descriptor → Call Unit}
    (h : ∀ array, Advances Fresh bridge (next array bridge).result.2) :
    Advances Fresh bridge (Call.withArray handle next bridge).result.2 := by
  have hget (rest : Bridge → Call Unit) : (get >>= rest) bridge = rest bridge bridge := rfl
  rw [Call.withArray, hget]
  cases bridge.arrays.get? handle with
  | none => exact of_same (Or.inl rfl) rfl
  | some array => exact h array

theorem of_keepBuffer {make : Call (Except Fault Buffer)}
    (hread : bridge.settings.Read (make bridge).result.2.settings)
    (hbuffers : (make bridge).result.2.buffers = bridge.buffers)
    (hfresh : ∀ buffer, (make bridge).result.1 = .ok buffer → Fresh buffer.capacity) :
    Advances Fresh bridge (Call.keepBuffer make bridge).result.2 := by
  rw [Call.keepBuffer, Call.result_bind]
  cases hresult : (make bridge).result.1 with
  | error fault => exact of_same hread hbuffers
  | ok buffer =>
    refine ⟨hread.settles, ?_⟩
    show Resizes Fresh bridge.buffers ((make bridge).result.2.buffers.add buffer).2
    rw [hbuffers]
    exact .of_add (hfresh buffer hresult)

theorem of_keepArray {make : Call (Except Fault Descriptor)}
    (hread : bridge.settings.Read (make bridge).result.2.settings)
    (hbuffers : (make bridge).result.2.buffers = bridge.buffers) :
    Advances Fresh bridge (Call.keepArray make bridge).result.2 := by
  rw [Call.keepArray, Call.result_bind]
  cases (make bridge).result.1 <;> exact of_same hread hbuffers

theorem of_editBuffer {handle : Nat} {buffer : Buffer} {edit : Buffer.Edit Unit}
    (hlive : bridge.buffers.get? handle = some buffer) (hatomic : edit.Atomic)
    (hgrows : Buffer.Grows buffer.capacity (edit.made buffer)) :
    Advances Fresh bridge (Call.only (Call.editBuffer handle buffer edit) bridge).result.2 := by
  rw [Call.only, Call.result_map]
  cases hresult : (edit.made buffer).run.result with
  | error fault =>
    rw [Call.editBuffer_of_error hlive hatomic (Fault.map_eq_error hresult)]
    exact of_same (Or.inl rfl) rfl
  | ok next =>
    rw [Call.editBuffer_eq, Buffer.Edit.left_of_made hresult]
    exact ⟨Or.inl rfl, .of_set hlive (hgrows next hresult)⟩

/-- A change of elements reaches the array itself if it owns them, and another place if it does
not. -/
theorem of_editArray (handle : Nat) (array : Descriptor) (access : Bytes → Except Fault Bytes) :
    let edit := Call.editArray handle fun bridge => do
      let region ← access (array.region bridge.regions)
      return bridge.updateArray array region
    Advances Fresh bridge (edit bridge).result.2 := by
  simp only [Call.editArray, Call.result_modify]
  cases access (array.region bridge.regions) with
  | error fault => exact of_same (Or.inl rfl) rfl
  | ok region =>
    -- the write goes to the array itself, or to the place that it borrows from, which may be a
    -- buffer
    have hupdate : Advances Fresh bridge (bridge.updateArray array region).2 := by
      unfold Bridge.updateArray
      split
      · exact of_same (Or.inl rfl) rfl
      · exact of_setRegion _ region
      · exact of_same (Or.inl rfl) rfl
    exact ⟨hupdate.settings, hupdate.buffers⟩

theorem of_dropBuffer (handle : Nat) (ending : Traced Unit) :
    Advances Fresh bridge (Call.dropBuffer handle ending bridge).result.2 :=
  ⟨Or.inl rfl, .of_erase _ handle⟩

/-- A conversion that does not look at the settings touches nothing here. -/
theorem of_convert {α : Type} {credit : Stats} {run : Marshal Arena α}
    (htallies : run.Tallies credit) :
    Advances Fresh bridge (Call.only (Call.convert run) bridge).result.2 :=
  of_same (Or.inl (htallies.settings bridge.toExchange)) rfl

end Advances

/-! ## Calls through handles -/

/-- The capacity of a buffer that some work makes is `Fresh`, and that of one that it changes is
doubled. -/
def Work.Sized (Fresh : Nat → Prop) (bridge : Bridge) : Work → Prop
  | makeBuffer run => ∀ buffer, run.run.result = .ok buffer → Fresh buffer.capacity
  | changeBuffer handle run =>
    ∃ buffer, bridge.buffers.get? handle = some buffer ∧ Buffer.Grows buffer.capacity run
  | removeElement handle outcome _ =>
    ∃ buffer, bridge.buffers.get? handle = some buffer ∧
      Buffer.Grows buffer.capacity (liftExcept (outcome.map Prod.snd))
  | makeArray _ | inspect _ => True

theorem Work.Sized.resizes {Fresh : Nat → Prop} {bridge next : Bridge} {work : Work}
    (h : work.Sized Fresh bridge) (hdone : (work.outcome bridge).result = .ok next) :
    Resizes Fresh bridge.buffers next.buffers := by
  cases work with
  | makeBuffer run =>
    obtain ⟨buffer, hresult, rfl⟩ := Fault.map_eq_ok hdone
    exact .of_add (h buffer hresult)
  | changeBuffer handle run =>
    obtain ⟨buffer, hlive, hgrows⟩ := h
    obtain ⟨changed, hresult, rfl⟩ := Fault.map_eq_ok hdone
    exact .of_set hlive (hgrows changed hresult)
  | removeElement handle outcome removed =>
    obtain ⟨buffer, hlive, hgrows⟩ := h
    obtain ⟨⟨there, changed⟩, hresult, rfl⟩ := Fault.map_eq_ok hdone
    rw [Bridge.buffers_tell]
    exact .of_set hlive (hgrows changed (by rw [hresult]; rfl))
  | makeArray run =>
    obtain ⟨array, -, rfl⟩ := Fault.map_eq_ok hdone
    exact .refl _
  | inspect outcome =>
    obtain ⟨_, -, rfl⟩ := Fault.map_eq_ok hdone
    exact .refl _

theorem Recorded.advances {Fresh : Nat → Prop} {bridge after : Bridge} {work : Option Work}
    {events : List Event} (h : Recorded bridge work after events)
    (hsized : ∀ w, work = some w → w.Sized Fresh bridge) : Advances Fresh bridge after := by
  cases h with
  | refused _ hafter =>
    subst hafter
    exact .of_same (Or.inl rfl) rfl
  | failed _ hcell hafter =>
    subst hafter
    exact .of_same hcell rfl
  | @succeeded _ _ work _ _ hdone hcell hafter =>
    subst hafter
    have hresizes := (hsized work rfl).resizes hdone
    exact ⟨hcell.settles, hresizes⟩

theorem Unrecorded.advances {Fresh : Nat → Prop} {bridge after : Bridge} {events : List Event}
    (h : Unrecorded bridge after events) : Advances Fresh bridge after := by
  cases h with
  | unchanged => exact .of_same (Or.inl rfl) rfl
  | bufferDestroyed => exact ⟨Or.inl rfl, .of_erase _ _⟩
  | arrayDestroyed => exact .of_same (Or.inl rfl) rfl

/-! ## Standard buffers -/

/-- A call makes a standard buffer: one with the default capacity, or a copy of a standard one. -/
def Request.isStandard (standard : List Nat) : Request → Bool
  | bufferCreate .. => true
  | bufferCopy (some handle) => standard.contains handle
  | _ => false

/-- An action makes a standard buffer. The capacity of a buffer may also be chosen freely, and then
it is not standard. -/
def Action.isStandard (standard : List Nat) : Action → Bool
  | call request => request.isStandard standard
  | newBuffer _ | createBuffer .. | bufferOfValues .. | toBuffer _ => true
  | copyBuffer handle => standard.contains handle
  | _ => false

/-- The capacity of a new buffer is a power of two, if it is to be standard. -/
def FitFor (isStandard : Bool) (capacity : Nat) : Prop :=
  isStandard = true → ∃ exponent, capacity = 2 ^ exponent

/-- The settings are valid if they are fixed, and the capacities of standard buffers are powers of
two. -/
structure Bridge.Regulated (standard : List Nat) (bridge : Bridge) : Prop where
  valid : bridge.settings.Valid
  two_pow : ∀ handle ∈ standard, ∀ buffer, bridge.buffers.get? handle = some buffer →
    ∃ exponent, buffer.capacity = 2 ^ exponent

namespace Marshal.Copying

variable [Allocator] {H : Type} {exchange after : Exchange H} {result : Except Fault Buffer}

/-- A copy of an array reads the settings when it comes to make a buffer. -/
theorem read (h : Copying exchange result after) : exchange.settings.Read after.settings := by
  cases h with
  | refused _ _ _ _ hsettings => exact Or.inl hsettings
  | attempted _ _ _ _ _ hsettings => exact Or.inr hsettings

theorem two_pow (h : Copying exchange result after) (hvalid : exchange.settings.Valid)
    {buffer : Buffer} (hbuffer : result = .ok buffer) :
    ∃ exponent, buffer.capacity = 2 ^ exponent := by
  cases h with
  | refused _ hresult =>
    rw [hresult] at hbuffer
    cases hbuffer
  | attempted kind bytes _ hresult =>
    rw [hresult] at hbuffer
    exact (Buffer.grows_create kind hvalid.pos bytes).two_pow hvalid.two_pow hbuffer

end Marshal.Copying

theorem Bridge.Orderly.capacity_pos {bridge : Bridge} (h : bridge.Orderly) {handle : Nat}
    {buffer : Buffer} (hlive : bridge.buffers.get? handle = some buffer) : 0 < buffer.capacity :=
  Nat.zero_lt_of_lt (h.sound _ (Store.mem_of_get? hlive)).spare

section Standard

variable [Allocator] {bridge : Bridge} {standard : List Nat} (horderly : bridge.Orderly)
  (hregulated : bridge.Regulated standard)

include horderly hregulated

theorem Request.sized (request : Request) {work : Work} (hwork : request.work bridge = some work) :
    work.Sized (FitFor (request.isStandard standard)) bridge := by
  have hlive : ∀ {handle found}, bridge.buffers.named? handle = some found →
      bridge.buffers.get? found.1 = some found.2 ∧ 0 < found.2.capacity := by
    intro handle found hfound
    have hget := (Store.named?_eq_some.mp hfound).2
    exact ⟨hget, horderly.capacity_pos hget⟩
  -- the work of each call, with the checks that it passed before
  cases request
  all_goals
    simp only [Request.work, Option.bind_eq_bind, Option.bind_eq_some_iff, Option.pure_def,
      Option.some.injEq, reduceCtorEq] at hwork
  case bufferCreate =>
    obtain ⟨kind, -, bytes, -, rfl⟩ := hwork
    have hgrows := Buffer.grows_create kind hregulated.valid.pos bytes
    exact fun _ hbuffer _ => hgrows.two_pow hregulated.valid.two_pow hbuffer
  case bufferCopy =>
    obtain ⟨found, hfound, rfl⟩ := hwork
    obtain ⟨hget, hpos⟩ := hlive hfound
    intro buffer hbuffer hstandard
    rw [(Store.named?_eq_some.mp hfound).1] at hstandard
    have hmem : found.1 ∈ standard := List.contains_iff_mem.mp hstandard
    exact (Buffer.grows_copy hpos).two_pow (hregulated.two_pow found.1 hmem found.2 hget) hbuffer
  case bufferAppend =>
    obtain ⟨found, hfound, appended, -, rfl⟩ := hwork
    obtain ⟨hget, hpos⟩ := hlive hfound
    refine ⟨found.2, hget, ?_⟩
    split
    · exact Buffer.grows_appendCopy hpos
    · exact Buffer.grows_append hpos _
  case bufferInsert =>
    obtain ⟨found, hfound, operand, -, rfl⟩ := hwork
    exact ⟨found.2, (hlive hfound).1, Buffer.grows_insert (hlive hfound).2 _ _⟩
  case bufferRemoveAt =>
    obtain ⟨found, hfound, rfl⟩ := hwork
    exact ⟨found.2, (hlive hfound).1, Buffer.grows_removeAt _ _⟩
  case bufferRemoveValue =>
    obtain ⟨found, hfound, operand, -, rfl⟩ := hwork
    exact ⟨found.2, (hlive hfound).1, Buffer.grows_removeValue _ _⟩
  case bufferReverse =>
    obtain ⟨found, hfound, rfl⟩ := hwork
    exact ⟨found.2, (hlive hfound).1, Buffer.grows_pure (Doubles.refl _)⟩
  case bufferClear =>
    obtain ⟨found, hfound, rfl⟩ := hwork
    exact ⟨found.2, (hlive hfound).1, Buffer.grows_pure (Doubles.refl _)⟩
  case bufferFindFirst | bufferCount =>
    obtain ⟨found, -, operand, -, rfl⟩ := hwork
    trivial
  case bufferElementAt | bufferAsArray =>
    obtain ⟨found, -, rfl⟩ := hwork
    trivial
  case arrayOfDense | arrayZeros =>
    obtain ⟨kind, -, shape, -, rfl⟩ := hwork
    trivial
  case arrayOfStrided =>
    obtain ⟨kind, -, shape, -, strides, -, rfl⟩ := hwork
    trivial
  case arrayElement =>
    obtain ⟨found, -, index, -, rfl⟩ := hwork
    trivial

theorem Request.advances (request : Request) :
    Advances (FitFor (request.isStandard standard)) bridge (request.perform bridge).result.2 := by
  by_cases hrecords : request.Records
  · have hrecorded := (request.concludes bridge hrecords).recorded
    exact hrecorded.advances fun _ hwork => request.sized horderly hregulated hwork
  · exact (request.unrecorded bridge hrecords).advances

/-- Every action leaves the settings alone or reads them, doubles a capacity if it changes one, and
takes a power of two for the capacity of a standard buffer. -/
theorem Action.advances (action : Action) :
    Advances (FitFor (action.isStandard standard)) bridge (action.perform bridge).result.2 := by
  have hdefault := hregulated.valid.pos
  have hpower := hregulated.valid.two_pow
  cases action with
  | call request =>
    simp only [perform, Call.only, Call.result_map]
    exact request.advances horderly hregulated
  | startUp =>
    obtain ⟨logging, hresult⟩ := Call.result_startUp bridge
    simp only [perform, Call.only, Call.result_map, hresult]
    exact .of_same (Or.inr rfl) rfl
  | shutDown | readError | clearError => exact .of_same (Or.inl rfl) rfl
  | readMessage out =>
    simp only [perform, Call.only, Call.result_map, Call.writeMessage, Call.result_bind]
    split <;> exact .of_same (Or.inl rfl) rfl
  | newBuffer kind =>
    refine .of_keepBuffer (Or.inr rfl) rfl fun buffer hbuffer _ => ?_
    exact (Buffer.grows_withCapacity kind hdefault).two_pow hpower hbuffer
  | bufferWithCapacity kind capacity =>
    -- any capacity may be asked for here, and the buffer is not standard
    refine .of_keepBuffer (Or.inl rfl) rfl fun _ _ hstandard => ?_
    cases hstandard
  | createBuffer kind bytes =>
    -- the settings are only read if the bytes are whole elements
    obtain ⟨cell, hcell, hcreate⟩ := Call.createBuffer_eq kind bytes bridge
    refine .of_keepBuffer ?_ ?_ fun buffer hbuffer _ => ?_
    · rw [hcreate]
      exact hcell
    · rw [hcreate]
    · rw [hcreate] at hbuffer
      exact (Buffer.grows_create kind hdefault bytes).two_pow hpower hbuffer
  | bufferOfValues kind values =>
    refine .of_keepBuffer (Or.inr rfl) rfl fun buffer hbuffer _ => ?_
    exact (Buffer.grows_ofValues kind hdefault values).two_pow hpower hbuffer
  | copyBuffer handle =>
    refine .of_withBuffer fun buffer hlive => .of_keepBuffer (Or.inl rfl) rfl ?_
    intro copied hcopied hstandard
    have hmem : handle ∈ standard := List.contains_iff_mem.mp hstandard
    have hgrows := Buffer.grows_copy (horderly.capacity_pos hlive)
    exact hgrows.two_pow (hregulated.two_pow handle hmem buffer hlive) hcopied
  | editBuffer handle op hop =>
    exact .of_withBuffer fun buffer hlive =>
      .of_editBuffer hlive op.atomic_edit
        (op.made_edit buffer ▸ op.grows (horderly.capacity_pos hlive) hop)
  | releaseBuffer handle | destroyBuffer handle =>
    exact .of_withBuffer fun _ _ => .of_dropBuffer handle _
  | arrayOfStrided | arrayOfDense | zeros => exact .of_keepArray (Or.inl rfl) rfl
  | viewBuffer handle => exact .of_withBuffer fun _ _ => .of_keepArray (Or.inl rfl) rfl
  | ownArray handle =>
    refine .of_withArray fun array => ?_
    let make := Call.attempt (array.toOwned (array.region bridge.regions))
    exact show Advances _ bridge (Call.keepArray make bridge).result.2 from
      .of_keepArray (Or.inl rfl) rfl
  | setElement handle index bytes =>
    exact .of_withArray fun array =>
      .of_editArray handle array fun region => array.setElement region index bytes
  | writeElement handle kind index value =>
    exact .of_withArray fun array =>
      .of_editArray handle array fun region => array.write region kind index value
  | releaseArray | destroyArray => exact .of_withArray fun _ => .of_same (Or.inl rfl) rfl
  | store address bytes => exact .of_setRegion address.place _
  | toValue kind object => exact .of_convert (Marshal.tallies_toValue kind object)
  | ofValue kind value => exact .of_convert (Marshal.tallies_ofValue kind value)
  | toDescriptor object =>
    exact .of_keepArray (Or.inl ((Marshal.tallies_toDescriptor object).settings _)) rfl
  | extract object argument rank kind =>
    exact .of_keepArray (Or.inl ((Marshal.tallies_extract object argument rank kind).settings _))
      rfl
  | toBuffer object =>
    have hcopying := Marshal.copying_toBuffer bridge.regions object bridge.toExchange
    -- the state is looked at before the conversion begins, so what is kept comes from `make`
    let make := Call.convert (Marshal.toBuffer bridge.regions object)
    exact show Advances _ bridge (Call.keepBuffer make bridge).result.2 from
      .of_keepBuffer hcopying.read rfl
        fun buffer hbuffer _ => hcopying.two_pow hregulated.valid hbuffer
  | ofBuffer handle =>
    exact .of_withBuffer fun buffer _ => .of_convert (Marshal.tallies_newArray _ _ _)
  | ofDescriptor handle =>
    exact .of_withArray fun array => .of_convert ((Marshal.tallies_newArray _ _ _).timed _)

end Standard

end HostBridge
