import HostBridge.Lifecycle
import HostBridge.Proofs.Layout.Access
import HostBridge.Proofs.Marshal.Memory
import HostBridge.Proofs.Session.Books
import HostBridge.Proofs.Session.Request

/-!
# Actions

Whatever is done with native buffers and arrays is an action: a call through handles, an operation
on the containers themselves, a conversion from or to host objects, or a write into memory. All
containers that are alive are kept behind handles, so that every operation may follow any other on
the same container.

## Main definitions

* `Action` and `Action.perform`: something that is done, and what it does;
* `Work.Accounted`: the events of the work behind a call say what becomes of the blocks;
* `Call.Calm`: a call that touches no container.

## Main results

* `Request.step`: every call through handles makes, changes or destroys one container at most;
* `Action.step`: so does every action.
-/

namespace HostBridge

open Account (Balanced Idle growths)

/-- Something that is done in a session. -/
inductive Action where
  /-- A call through handles. -/
  | call (request : Request)
  -- the life of the library, and the last error
  | startUp
  | shutDown
  | readError
  | readMessage (out : Bytes)
  | clearError
  -- operations on buffers
  | newBuffer (kind : Kind)
  | bufferWithCapacity (kind : Kind) (capacity : Nat)
  | createBuffer (kind : Kind) (bytes : Bytes)
  | bufferOfValues (kind : Kind) (values : List (Value kind))
  | copyBuffer (handle : Nat)
  | editBuffer (handle : Nat) (op : Buffer.Operation) (hop : op.InPlace)
  | releaseBuffer (handle : Nat)
  | destroyBuffer (handle : Nat)
  -- operations on arrays
  | arrayOfStrided (data : Option Address) (shape : Shape) (strides : Strides) (kind : Kind)
  | arrayOfDense (data : Option Address) (shape : Shape) (kind : Kind) (order : Order)
  | zeros (shape : Shape) (kind : Kind) (order : Order)
  | viewBuffer (handle : Nat)
  | ownArray (handle : Nat)
  | setElement (handle : Nat) (index : Index) (bytes : Bytes)
  | writeElement (handle : Nat) (kind : Kind) (index : Index) (value : Value kind)
  | releaseArray (handle : Nat)
  | destroyArray (handle : Nat)
  /-- A write into memory, whoever it belongs to. -/
  | store (address : Address) (bytes : Bytes)
  -- conversions
  | toValue (kind : Kind) (object : Ref)
  | ofValue (kind : Kind) (value : Value kind)
  | toDescriptor (object : Ref)
  | extract (object : Ref) (argument : String) (rank : Nat) (kind : Kind)
  | toBuffer (object : Ref)
  | ofBuffer (handle : Nat)
  | ofDescriptor (handle : Nat)

namespace Call

/-- Do something with the buffer behind a handle, if there is one. -/
def withBuffer (handle : Nat) (next : Buffer → Call Unit) : Call Unit := do
  match (← get).buffers.get? handle with
  | some buffer => next buffer
  | none => return ()

/-- Do something with the array behind a handle, if there is one. -/
def withArray (handle : Nat) (next : Descriptor → Call Unit) : Call Unit := do
  match (← get).arrays.get? handle with
  | some array => next array
  | none => return ()

/-- Keep a new buffer, unless making it failed. -/
def keepBuffer (make : Call (Except Fault Buffer)) : Call Unit := do
  match ← make with
  | .ok buffer => modify fun bridge => { bridge with buffers := (bridge.buffers.add buffer).2 }
  | .error _ => return ()

/-- Keep a new array, unless making it failed. -/
def keepArray (make : Call (Except Fault Descriptor)) : Call Unit := do
  match ← make with
  | .ok array => modify fun bridge => { bridge with arrays := (bridge.arrays.add array).2 }
  | .error _ => return ()

/-- Put a changed array back behind its handle, together with what it changed elsewhere. -/
def editArray (handle : Nat) (change : Bridge → Except Fault (Descriptor × Bridge)) : Call Unit :=
  modify fun bridge =>
    match change bridge with
    | .ok (array, after) => { after with arrays := after.arrays.set handle array }
    | .error _ => bridge

/-- Give a buffer up, and let it end in its own way. -/
def dropBuffer (handle : Nat) (ending : Traced Unit) : Call Unit := do
  modify fun bridge => { bridge with buffers := bridge.buffers.erase handle }
  StateT.lift ending

/-- Give an array up, and let it end in its own way. -/
def dropArray (handle : Nat) (ending : Traced Unit) : Call Unit := do
  modify fun bridge => { bridge with arrays := bridge.arrays.erase handle }
  StateT.lift ending

/-- Do something for its effects alone. -/
def only {α : Type} (call : Call α) : Call Unit := (fun _ => ()) <$> call

end Call

open Call in
/-- What an action does. -/
def Action.perform [Allocator] : Action → Call Unit
  | call request => only request.perform
  | startUp => only Call.startUp
  | shutDown => Call.shutDown
  | readError => only lastError
  | readMessage out => only (writeMessage out)
  | clearError => Call.clearError
  | newBuffer kind => keepBuffer (Call.newBuffer kind)
  | bufferWithCapacity kind capacity => keepBuffer (attempt (Buffer.withCapacity kind capacity))
  | createBuffer kind bytes => keepBuffer (Call.createBuffer kind bytes)
  | bufferOfValues kind values => keepBuffer (Call.bufferOfValues kind values)
  | copyBuffer handle => withBuffer handle fun buffer => keepBuffer (attempt buffer.copy)
  | editBuffer handle op _ => withBuffer handle fun buffer =>
    only (Call.editBuffer handle buffer op.edit)
  | releaseBuffer handle => withBuffer handle fun buffer => dropBuffer handle buffer.release
  | destroyBuffer handle => withBuffer handle fun buffer => dropBuffer handle buffer.destroy
  | arrayOfStrided data shape strides kind =>
    keepArray (attempt (Descriptor.ofStrided data shape strides kind))
  | arrayOfDense data shape kind order =>
    keepArray (attempt (Descriptor.ofDense data shape kind order))
  | zeros shape kind order => keepArray (attempt (Descriptor.zeros shape kind order))
  | viewBuffer handle => withBuffer handle fun buffer =>
    keepArray (return .ok (buffer.view ⟨.buffer handle, 0⟩))
  | ownArray handle => withArray handle fun array => do
    keepArray (attempt (array.toOwned (array.region (← get).regions)))
  | setElement handle index bytes => withArray handle fun array =>
    editArray handle fun bridge => bridge.setElement array index bytes
  | writeElement handle kind index value => withArray handle fun array =>
    editArray handle fun bridge => bridge.writeElement array kind index value
  | releaseArray handle => withArray handle fun array => dropArray handle array.release
  | destroyArray handle => withArray handle fun array => dropArray handle array.destroy
  | store address bytes => modify fun bridge => bridge.store address bytes
  | toValue kind object => only (convert (Marshal.toValue kind object))
  | ofValue kind value => only (convert (Marshal.ofValue kind value))
  | toDescriptor object => keepArray (convert (Marshal.toDescriptor object))
  | extract object argument rank kind =>
    keepArray (convert (Marshal.extract object argument rank kind))
  | toBuffer object => do keepBuffer (convert (Marshal.toBuffer (← get).regions object))
  | ofBuffer handle => withBuffer handle fun buffer => only (convert (Marshal.ofBuffer buffer))
  | ofDescriptor handle => withArray handle fun array => do
    only (convert (Marshal.ofDescriptor (← get).regions array))

/-! ## Every action is one step -/

namespace Step

variable {bridge : Bridge}

/-- A write that keeps the size of a place changes the bytes of one container at most. -/
theorem of_setRegion (horderly : bridge.Orderly) (place : Place) {bytes : Bytes}
    (hlength : bytes.length = (bridge.regions place).length) :
    Step bridge (bridge.setRegion place bytes) [] := by
  cases place with
  | block id => exact .idle rfl rfl Idle.nil
  | object ref => exact .idle rfl rfl Idle.nil
  | buffer handle =>
    cases hlive : bridge.buffers.get? handle with
    | none =>
      simp only [Bridge.setRegion, hlive]
      exact .idle rfl rfl Idle.nil
    | some buffer =>
      have hsound := horderly.sound _ (Store.mem_of_get? hlive)
      simp only [Bridge.regions, hlive, Option.map_some, Option.getD_some] at hlength
      simp only [Bridge.setRegion, hlive]
      exact .bufferChanged hlive rfl rfl (Buffer.moves_pure (hsound.withBlock hlength) rfl rfl)
  | array handle =>
    cases hlive : bridge.arrays.get? handle with
    | none =>
      simp only [Bridge.setRegion, hlive]
      exact .idle rfl rfl Idle.nil
    | some array =>
      have hanchored := horderly.anchored _ (Store.mem_of_get? hlive)
      simp only [Bridge.setRegion, hlive]
      exact .arrayChanged hlive rfl rfl (hanchored.withBlock bytes) (array.charges_withBlock bytes)
        Idle.nil

theorem of_store (horderly : bridge.Orderly) (address : Address) (bytes : Bytes) :
    Step bridge (bridge.store address bytes) [] :=
  of_setRegion horderly address.place (Bytes.length_setWindow _ _ _)

theorem of_withBuffer {handle : Nat} {next : Buffer → Call Unit}
    (h : ∀ buffer, bridge.buffers.get? handle = some buffer →
      Step bridge (next buffer bridge).result.2 (next buffer bridge).events) :
    Step bridge (Call.withBuffer handle next bridge).result.2
      (Call.withBuffer handle next bridge).events := by
  have hcall : Call.withBuffer handle next bridge =
      (match bridge.buffers.get? handle with
        | some buffer => next buffer
        | none => return ()) bridge := rfl
  rw [hcall]
  cases hlive : bridge.buffers.get? handle with
  | none => exact .idle rfl rfl Idle.nil
  | some buffer => exact h buffer hlive

theorem of_withArray {handle : Nat} {next : Descriptor → Call Unit}
    (h : ∀ array, bridge.arrays.get? handle = some array →
      Step bridge (next array bridge).result.2 (next array bridge).events) :
    Step bridge (Call.withArray handle next bridge).result.2
      (Call.withArray handle next bridge).events := by
  have hcall : Call.withArray handle next bridge =
      (match bridge.arrays.get? handle with
        | some array => next array
        | none => return ()) bridge := rfl
  rw [hcall]
  cases hlive : bridge.arrays.get? handle with
  | none => exact .idle rfl rfl Idle.nil
  | some array => exact h array hlive

/-- What is kept was made with its own block, or not made at all. -/
theorem of_keepBuffer {make : Call (Except Fault Buffer)}
    (hbuffers : (make bridge).result.2.buffers = bridge.buffers)
    (harrays : (make bridge).result.2.arrays = bridge.arrays)
    (hmade : Account.Made Buffer.Sound (fun buffer => {buffer.charge}) (make bridge).result.1
      (make bridge).events) :
    Step bridge (Call.keepBuffer make bridge).result.2 (Call.keepBuffer make bridge).events := by
  rw [Call.keepBuffer, Call.result_bind, Call.events_bind]
  cases hresult : (make bridge).result.1 with
  | error fault =>
    rw [hresult] at hmade
    exact .idle hbuffers harrays (Idle.append hmade Idle.nil)
  | ok buffer =>
    rw [hresult] at hmade
    obtain ⟨hsound, hbalanced, hgrowths⟩ := hmade.append_idle Idle.nil
    exact .bufferMade (congrArg (fun store => (store.add buffer).2) hbuffers) harrays hsound
      hbalanced
      hgrowths

theorem of_keepArray {make : Call (Except Fault Descriptor)}
    (hbuffers : (make bridge).result.2.buffers = bridge.buffers)
    (harrays : (make bridge).result.2.arrays = bridge.arrays)
    (hmade : Account.Made Descriptor.Anchored Descriptor.charges (make bridge).result.1
      (make bridge).events) :
    Step bridge (Call.keepArray make bridge).result.2 (Call.keepArray make bridge).events := by
  rw [Call.keepArray, Call.result_bind, Call.events_bind]
  cases hresult : (make bridge).result.1 with
  | error fault =>
    rw [hresult] at hmade
    exact .idle hbuffers harrays (Idle.append hmade Idle.nil)
  | ok array =>
    rw [hresult] at hmade
    obtain ⟨hanchored, hbalanced, hgrowths⟩ := hmade.append_idle Idle.nil
    exact .arrayMade hbuffers (congrArg (fun store => (store.add array).2) harrays) hanchored
      hbalanced hgrowths

/-- An attempt that does not touch the state. -/
theorem of_attemptBuffer {run : Attempt Buffer} (hmade : Buffer.Made run) :
    Step bridge (Call.keepBuffer (Call.attempt run) bridge).result.2
      (Call.keepBuffer (Call.attempt run) bridge).events := by
  refine of_keepBuffer rfl rfl ?_
  rw [Call.events_attempt]
  exact hmade

theorem of_attemptArray {run : Attempt Descriptor} (hmade : Descriptor.Made run) :
    Step bridge (Call.keepArray (Call.attempt run) bridge).result.2
      (Call.keepArray (Call.attempt run) bridge).events := by
  refine of_keepArray rfl rfl ?_
  rw [Call.events_attempt]
  exact hmade

/-- An edit that fails leaves the buffer with the block it had. -/
theorem of_editBuffer {handle : Nat} {buffer : Buffer} {edit : Buffer.Edit Unit}
    (hlive : bridge.buffers.get? handle = some buffer) (hatomic : edit.Atomic)
    (hmoves : buffer.Moves (edit.made buffer)) :
    Step bridge (Call.only (Call.editBuffer handle buffer edit) bridge).result.2
      (Call.only (Call.editBuffer handle buffer edit) bridge).events := by
  simp only [Call.only, Call.result_map, Call.events_map]
  unfold Buffer.Moves at hmoves
  cases hresult : (edit.made buffer).run.result with
  | error fault =>
    rw [hresult] at hmoves
    rw [Call.editBuffer_of_error hlive hatomic (Fault.map_eq_error hresult)]
    exact .idle rfl rfl hmoves
  | ok next =>
    rw [hresult] at hmoves
    rw [Call.editBuffer_eq, Buffer.Edit.left_of_made hresult]
    exact .bufferChanged hlive rfl rfl hmoves

/-- A view stays as it is, whatever is written. -/
theorem get?_setRegion {handle : Nat} {array : Descriptor} {address : Option Address}
    (hlive : bridge.arrays.get? handle = some array) (hview : array.source = .borrowed address)
    (place : Place) (bytes : Bytes) :
    (bridge.setRegion place bytes).arrays.get? handle = some array := by
  cases place with
  | block id => exact hlive
  | object ref => exact hlive
  | buffer other =>
    simp only [Bridge.setRegion]
    split <;> exact hlive
  | array other =>
    simp only [Bridge.setRegion]
    split
    · rename_i written hwritten
      by_cases hother : handle = other
      · subst hother
        obtain rfl : array = written := Option.some.inj (hlive.symm.trans hwritten)
        have hkept : array.withBlock bytes = array := by simp only [Descriptor.withBlock, hview]
        rw [hkept, Store.get?_set_self hlive]
      · rw [Store.get?_set_of_ne _ _ hother]
        exact hlive
    · exact hlive

/-- A change of elements reaches the array itself if it owns them, and another place if it does
not. -/
theorem of_updateArray (horderly : bridge.Orderly) {handle : Nat} {array : Descriptor}
    {region : Bytes} (hlive : bridge.arrays.get? handle = some array)
    (hlength : region.length = (array.region bridge.regions).length) :
    Step bridge
      { (bridge.updateArray array region).2 with
        arrays := (bridge.updateArray array region).2.arrays.set handle
          (bridge.updateArray array region).1 } [] := by
  unfold Bridge.updateArray
  cases hsource : array.source with
  | owned block =>
    have hanchored := horderly.anchored _ (Store.mem_of_get? hlive)
    exact .arrayChanged hlive rfl rfl (hanchored.withBlock region) (array.charges_withBlock region)
      Idle.nil
  | borrowed address =>
    cases address with
    | none => exact .idle rfl (Store.set_self hlive) Idle.nil
    | some address =>
      -- the write may go to another container, while the view itself is put back as it was
      simp only [Descriptor.region, hsource] at hlength
      have hstep := of_setRegion horderly address.place hlength
      have hkept := Store.set_self (get?_setRegion hlive hsource address.place region)
      simp only [hkept]
      exact hstep

/-- An access that fails changes nothing. -/
theorem of_editArray (horderly : bridge.Orderly) {handle : Nat} {array : Descriptor}
    {access : Bytes → Except Fault Bytes} (hlive : bridge.arrays.get? handle = some array)
    (hlength : ∀ {region written}, access region = .ok written → written.length = region.length) :
    let edit := Call.editArray handle fun bridge => do
      let region ← access (array.region bridge.regions)
      return bridge.updateArray array region
    Step bridge (edit bridge).result.2 (edit bridge).events := by
  intro edit
  have hedit : edit bridge = ⟨((), match (do
      let region ← access (array.region bridge.regions)
      return bridge.updateArray array region : Except Fault (Descriptor × Bridge)) with
    | .ok (array, after) => { after with arrays := after.arrays.set handle array }
    | .error _ => bridge), []⟩ := rfl
  rw [hedit]
  cases haccess : access (array.region bridge.regions) with
  | error fault => exact .idle rfl rfl Idle.nil
  | ok region => exact of_updateArray horderly hlive (hlength haccess)

theorem of_dropBuffer {handle : Nat} {buffer : Buffer} {ending : Traced Unit}
    (hlive : bridge.buffers.get? handle = some buffer)
    (hbalanced : Balanced ending.events {buffer.charge} 0) (hgrowths : growths ending.events = []) :
    Step bridge (Call.dropBuffer handle ending bridge).result.2
      (Call.dropBuffer handle ending bridge).events := by
  rw [Call.dropBuffer, Call.events_bind, Call.events_lift]
  exact .bufferGone hlive rfl rfl hbalanced hgrowths

theorem of_dropArray {handle : Nat} {array : Descriptor} {ending : Traced Unit}
    (hlive : bridge.arrays.get? handle = some array)
    (hbalanced : Balanced ending.events array.charges 0) (hgrowths : growths ending.events = []) :
    Step bridge (Call.dropArray handle ending bridge).result.2
      (Call.dropArray handle ending bridge).events := by
  rw [Call.dropArray, Call.events_bind, Call.events_lift]
  exact .arrayGone hlive rfl rfl hbalanced hgrowths

/-- A conversion touches no container. -/
theorem of_convert {α : Type} {run : Marshal Arena α} (hquiet : run.Quiet) :
    Step bridge (Call.only (Call.convert run) bridge).result.2
      (Call.only (Call.convert run) bridge).events := by
  rw [Call.only, Call.events_map]
  exact .idle rfl rfl ((hquiet bridge.toExchange).append Idle.nil)

end Step

/-! ## Calls through handles -/

/-- The events of some work, however it ends, say what becomes of the blocks. -/
def Work.Accounted (bridge : Bridge) : Work → Prop
  | makeBuffer run => Buffer.Made run
  | changeBuffer handle run =>
    ∃ buffer, bridge.buffers.get? handle = some buffer ∧ buffer.Moves run
  | removeElement handle outcome _ =>
    ∃ buffer, bridge.buffers.get? handle = some buffer ∧
      buffer.Moves (liftExcept (outcome.map Prod.snd))
  | makeArray run => Descriptor.Made run
  | inspect _ => True

/-- The work of every call is accounted for. -/
theorem Request.accounted [Allocator] {bridge : Bridge} (horderly : bridge.Orderly)
    (request : Request) {work : Work} (hwork : request.work bridge = some work) :
    work.Accounted bridge := by
  have hlive : ∀ {handle found}, bridge.buffers.named? handle = some found →
      bridge.buffers.get? found.1 = some found.2 ∧ found.2.Sound := by
    intro handle found hfound
    have hget := (Store.named?_eq_some.mp hfound).2
    exact ⟨hget, horderly.sound _ (Store.mem_of_get? hget)⟩
  -- the work of each call, with the checks that it passed before
  cases request
  all_goals
    simp only [Request.work, Option.bind_eq_bind, Option.bind_eq_some_iff, Option.pure_def,
      Option.some.injEq, reduceCtorEq] at hwork
  case bufferCreate =>
    obtain ⟨kind, -, bytes, -, rfl⟩ := hwork
    exact Buffer.made_create _ kind bytes
  case bufferAppend =>
    obtain ⟨found, hfound, appended, -, rfl⟩ := hwork
    obtain ⟨hget, hsound⟩ := hlive hfound
    refine ⟨found.2, hget, ?_⟩
    split
    · exact Buffer.moves_appendCopy hsound
    · exact Buffer.moves_append hsound _
  case bufferInsert =>
    obtain ⟨found, hfound, operand, -, rfl⟩ := hwork
    exact ⟨found.2, (hlive hfound).1, Buffer.moves_insert (hlive hfound).2 _ _⟩
  case bufferRemoveAt =>
    obtain ⟨found, hfound, rfl⟩ := hwork
    exact ⟨found.2, (hlive hfound).1, Buffer.moves_removeAt (hlive hfound).2 _⟩
  case bufferRemoveValue =>
    obtain ⟨found, hfound, operand, -, rfl⟩ := hwork
    exact ⟨found.2, (hlive hfound).1, Buffer.moves_removeValue (hlive hfound).2 _⟩
  case bufferReverse =>
    obtain ⟨found, hfound, rfl⟩ := hwork
    exact ⟨found.2, (hlive hfound).1, Buffer.moves_reverse (hlive hfound).2⟩
  case bufferClear =>
    obtain ⟨found, hfound, rfl⟩ := hwork
    exact ⟨found.2, (hlive hfound).1, Buffer.moves_clear (hlive hfound).2⟩
  case bufferCopy =>
    obtain ⟨found, hfound, rfl⟩ := hwork
    exact Buffer.made_copy (hlive hfound).2
  case bufferAsArray =>
    obtain ⟨found, -, rfl⟩ := hwork
    exact Descriptor.made_ofStrided _ _ _ _
  case arrayOfDense =>
    obtain ⟨kind, -, shape, -, rfl⟩ := hwork
    exact Descriptor.made_ofStrided _ _ _ _
  case arrayOfStrided =>
    obtain ⟨kind, -, shape, -, strides, -, rfl⟩ := hwork
    exact Descriptor.made_ofStrided _ _ _ _
  case arrayZeros =>
    obtain ⟨kind, -, shape, -, rfl⟩ := hwork
    exact Descriptor.made_zeros _ _ _
  case bufferFindFirst =>
    obtain ⟨found, -, operand, -, rfl⟩ := hwork
    trivial
  case bufferCount =>
    obtain ⟨found, -, operand, -, rfl⟩ := hwork
    trivial
  case bufferElementAt =>
    obtain ⟨found, -, rfl⟩ := hwork
    trivial
  case arrayElement =>
    obtain ⟨found, -, index, -, rfl⟩ := hwork
    trivial

namespace Work.Accounted

variable {bridge : Bridge} {work : Work}

/-- Work that failed gave back whatever it had obtained. -/
theorem idle_of_error (h : work.Accounted bridge) {fault : Fault}
    (hfault : (work.outcome bridge).result = .error fault) : Idle (work.outcome bridge).events := by
  cases work with
  | makeBuffer run =>
    simp only [Accounted, Buffer.Made] at h
    rw [Fault.map_eq_error hfault] at h
    exact h
  | changeBuffer handle run =>
    obtain ⟨buffer, -, hmoves⟩ := h
    unfold Buffer.Moves at hmoves
    rw [Fault.map_eq_error hfault] at hmoves
    exact hmoves
  | removeElement handle outcome removed => exact Idle.nil
  | makeArray run =>
    simp only [Accounted, Descriptor.Made] at h
    rw [Fault.map_eq_error hfault] at h
    exact h
  | inspect _ => exact Idle.nil

/-- Work that succeeded is one step. -/
theorem step_of_ok (h : work.Accounted bridge) {next after : Bridge}
    (hdone : (work.outcome bridge).result = .ok next) (hbuffers : after.buffers = next.buffers)
    (harrays : after.arrays = next.arrays) : Step bridge after (work.outcome bridge).events := by
  cases work with
  | makeBuffer run =>
    obtain ⟨buffer, hresult, rfl⟩ := Fault.map_eq_ok hdone
    simp only [Accounted, Buffer.Made] at h
    rw [hresult] at h
    obtain ⟨hsound, hbalanced, hgrowths⟩ := h
    exact .bufferMade hbuffers harrays hsound hbalanced hgrowths
  | changeBuffer handle run =>
    obtain ⟨buffer, hlive, hmoves⟩ := h
    obtain ⟨changed, hresult, rfl⟩ := Fault.map_eq_ok hdone
    unfold Buffer.Moves at hmoves
    rw [hresult] at hmoves
    exact .bufferChanged hlive hbuffers harrays hmoves
  | removeElement handle outcome removed =>
    -- what is told is written to a block of the caller, which is no container
    obtain ⟨buffer, hlive, hmoves⟩ := h
    obtain ⟨⟨there, changed⟩, hresult, rfl⟩ := Fault.map_eq_ok hdone
    rw [hresult] at hmoves
    rw [Bridge.buffers_tell] at hbuffers
    rw [Bridge.arrays_tell] at harrays
    exact .bufferChanged hlive hbuffers harrays hmoves
  | makeArray run =>
    obtain ⟨array, hresult, rfl⟩ := Fault.map_eq_ok hdone
    simp only [Accounted, Descriptor.Made] at h
    rw [hresult] at h
    obtain ⟨hanchored, hbalanced, hgrowths⟩ := h
    exact .arrayMade hbuffers harrays hanchored hbalanced hgrowths
  | inspect outcome =>
    obtain ⟨_, -, rfl⟩ := Fault.map_eq_ok hdone
    exact .idle hbuffers harrays Idle.nil

end Work.Accounted

/-- What a call that records an outcome leaves behind is one step from where it began. -/
theorem Recorded.step {bridge after : Bridge} {work : Option Work} {events : List Event}
    (h : Recorded bridge work after events) (haccounted : ∀ w, work = some w → w.Accounted bridge) :
    Step bridge after events := by
  cases h with
  | refused _ hafter hevents =>
    subst hafter hevents
    exact .idle rfl rfl (Idle.single ⟨rfl, rfl, rfl⟩)
  | @failed _ _ work _ _ hfault _ hafter hevents =>
    subst hafter hevents
    have hidle := (haccounted work rfl).idle_of_error hfault
    exact .idle rfl rfl (hidle.append (Idle.single ⟨rfl, rfl, rfl⟩))
  | @succeeded _ _ work _ _ hdone _ hafter hevents =>
    subst hafter hevents
    exact (haccounted work rfl).step_of_ok hdone rfl rfl

/-- So is what a call leaves behind that records none. -/
theorem Unrecorded.step {bridge after : Bridge} {events : List Event}
    (h : Unrecorded bridge after events) : Step bridge after events := by
  cases h with
  | unchanged => exact .idle rfl rfl Idle.nil
  | @bufferDestroyed _ buffer hlive =>
    exact .bufferGone hlive rfl rfl (Balanced.other_cons rfl rfl buffer.balanced_destroy) rfl
  | @arrayDestroyed _ array hlive =>
    exact .arrayGone hlive rfl rfl (Balanced.other_cons rfl rfl array.balanced_destroy)
      array.growths_release

theorem Request.step [Allocator] {bridge : Bridge} (horderly : bridge.Orderly) (request : Request) :
    Step bridge (request.perform bridge).result.2 (request.perform bridge).events := by
  by_cases hrecords : request.Records
  · have hrecorded := (request.concludes bridge hrecords).recorded
    exact hrecorded.step fun _ hwork => request.accounted horderly hwork
  · exact (request.unrecorded bridge hrecords).step

/-! ## All actions -/

namespace Call

variable {α β : Type}

/-- A call that touches no container, and obtains no memory. -/
def Calm (call : Call α) : Prop :=
  ∀ bridge, (call bridge).result.2.buffers = bridge.buffers ∧
    (call bridge).result.2.arrays = bridge.arrays ∧ Idle (call bridge).events

theorem calm_pure (a : α) : Calm (pure a) := fun _ => ⟨rfl, rfl, Idle.nil⟩

theorem calm_emit {event : Event} (h : event.Silent) : Calm (emit event) :=
  fun _ => ⟨rfl, rfl, Idle.single h⟩

theorem Calm.bind {call : Call α} {next : α → Call β} (h : Calm call) (h' : ∀ a, Calm (next a)) :
    Calm (call >>= next) := by
  intro bridge
  obtain ⟨hbuffers, harrays, hidle⟩ := h bridge
  obtain ⟨hbuffers', harrays', hidle'⟩ := h' (call bridge).result.1 (call bridge).result.2
  exact ⟨hbuffers'.trans hbuffers, harrays'.trans harrays, hidle.append hidle'⟩

theorem Calm.step {call : Call α} (h : Calm call) (bridge : Bridge) :
    Step bridge (call bridge).result.2 (call bridge).events :=
  .idle (h bridge).1 (h bridge).2.1 (h bridge).2.2

/-- Starting reports what it does and touches no container. -/
theorem calm_startUp : Calm startUp := by
  have hget : Calm get := fun _ => ⟨rfl, rfl, Idle.nil⟩
  have hlogging : ∀ log, Calm (beginLogging log) := fun _ _ => ⟨rfl, rfl, Idle.nil⟩
  have hinstall : ∀ settings, Calm (install settings) := fun _ _ => ⟨rfl, rfl, Idle.nil⟩
  have hreset : Calm resetStats := fun _ => ⟨rfl, rfl, Idle.nil⟩
  have hsettings : Calm settings := fun _ => ⟨rfl, rfl, Idle.nil⟩
  have hend : ∀ code : Int, Calm (do
      resetStats
      emit (.started (← settings).defaultCapacity)
      return code) := fun code =>
    hreset.bind fun _ => hsettings.bind fun _ =>
      (calm_emit ⟨rfl, rfl, rfl⟩).bind fun _ => calm_pure code
  have hrest : ∀ (wanted : Settings) (code : Int), Calm (do
      if !(← install wanted) then
        emit .settingsKept
      resetStats
      emit (.started (← settings).defaultCapacity)
      return code) := by
    intro wanted code
    refine (hinstall wanted).bind fun installed => ?_
    dsimp only
    split
    · exact (calm_emit ⟨rfl, rfl, rfl⟩).bind fun _ => hend code
    · exact hend code
  refine hget.bind fun before => (hlogging _).bind fun _ => ?_
  -- the code that is returned depends on the settings that the environment asks for
  dsimp only
  split
  · exact hrest _ 0
  · exact (calm_emit ⟨rfl, rfl, rfl⟩).bind fun _ => hrest _ refusedCode

theorem calm_writeMessage (out : Bytes) : Calm (writeMessage out) := by
  refine Calm.bind (fun _ => ⟨rfl, rfl, Idle.nil⟩) fun text => ?_
  split <;> exact calm_pure _

end Call

/-- Every action makes, changes or destroys one container at most, and its events say what becomes
of its blocks. -/
theorem Action.step [Allocator] {bridge : Bridge} (horderly : bridge.Orderly) (action : Action) :
    Step bridge (action.perform bridge).result.2 (action.perform bridge).events := by
  have hsound : ∀ {handle buffer}, bridge.buffers.get? handle = some buffer → buffer.Sound :=
    fun hlive => horderly.sound _ (Store.mem_of_get? hlive)
  cases action with
  | call request =>
    simp only [perform, Call.only, Call.result_map, Call.events_map]
    exact request.step horderly
  | startUp =>
    simp only [perform, Call.only, Call.result_map, Call.events_map]
    exact Call.calm_startUp.step bridge
  | shutDown => exact .idle rfl rfl (Idle.single ⟨rfl, rfl, rfl⟩)
  | readError | clearError => exact .idle rfl rfl Idle.nil
  | readMessage out =>
    simp only [perform, Call.only, Call.result_map, Call.events_map]
    exact (Call.calm_writeMessage out).step bridge
  | newBuffer kind =>
    exact .of_keepBuffer rfl rfl ((Buffer.made_withCapacity kind _).append_idle Idle.nil)
  | bufferWithCapacity kind capacity =>
    exact .of_attemptBuffer (Buffer.made_withCapacity kind capacity)
  | createBuffer kind bytes =>
    obtain ⟨cell, -, hcreate⟩ := Call.createBuffer_eq kind bytes bridge
    refine .of_keepBuffer ?_ ?_ ?_ <;> rw [hcreate]
    exact Buffer.made_create _ kind bytes
  | bufferOfValues kind values =>
    exact .of_keepBuffer rfl rfl ((Buffer.made_ofValues _ kind values).append_idle Idle.nil)
  | copyBuffer handle =>
    exact .of_withBuffer fun buffer hlive => .of_attemptBuffer (Buffer.made_copy (hsound hlive))
  | editBuffer handle op hop =>
    exact .of_withBuffer fun buffer hlive => .of_editBuffer hlive op.atomic_edit
      (op.made_edit buffer ▸ op.moves (hsound hlive) hop)
  | releaseBuffer handle =>
    exact .of_withBuffer fun buffer hlive => .of_dropBuffer hlive buffer.balanced_release rfl
  | destroyBuffer handle =>
    exact .of_withBuffer fun buffer hlive => .of_dropBuffer hlive buffer.balanced_destroy rfl
  | arrayOfStrided data shape strides kind => exact .of_attemptArray (Descriptor.made_ofStrided ..)
  | arrayOfDense data shape kind order => exact .of_attemptArray (Descriptor.made_ofStrided ..)
  | zeros shape kind order => exact .of_attemptArray (Descriptor.made_zeros shape kind order)
  | viewBuffer handle =>
    refine .of_withBuffer fun buffer _ => .of_keepArray rfl rfl ?_
    exact Descriptor.made_ofRun ⟨.buffer handle, 0⟩ buffer.length buffer.kind
  | ownArray handle =>
    exact .of_withArray fun array _ => .of_attemptArray (array.made_toOwned _)
  | setElement handle index bytes =>
    exact .of_withArray fun array hlive =>
      .of_editArray horderly hlive fun h => Descriptor.length_setElement h
  | writeElement handle kind index value =>
    exact .of_withArray fun array hlive =>
      .of_editArray horderly hlive fun h => Descriptor.length_write h
  | releaseArray handle =>
    exact .of_withArray fun array hlive =>
      .of_dropArray hlive array.balanced_release array.growths_release
  | destroyArray handle =>
    exact .of_withArray fun array hlive =>
      .of_dropArray hlive array.balanced_destroy array.growths_release
  | store address bytes => exact .of_store horderly address bytes
  | toValue kind object => exact .of_convert (Marshal.quiet_toValue kind object)
  | ofValue kind value => exact .of_convert (Marshal.quiet_ofValue kind value)
  | toDescriptor object =>
    have hborrowed := Marshal.yields_toDescriptor object bridge.toExchange
    exact .of_keepArray rfl rfl (Descriptor.made_of_borrowed (hborrowed.append_idle Idle.nil))
  | extract object argument rank kind =>
    have hborrowed := Marshal.yields_extract object argument rank kind bridge.toExchange
    exact .of_keepArray rfl rfl (Descriptor.made_of_borrowed (hborrowed.append_idle Idle.nil))
  | toBuffer object =>
    have hmade := Marshal.yields_toBuffer bridge.regions object bridge.toExchange
    let make := Call.convert (Marshal.toBuffer bridge.regions object)
    -- the state is looked at before the conversion begins, so what is kept comes from `make`
    have hstep : Step bridge (Call.keepBuffer make bridge).result.2
        (Call.keepBuffer make bridge).events :=
      .of_keepBuffer rfl rfl (hmade.append_idle Idle.nil)
    exact hstep
  | ofBuffer handle =>
    exact .of_withBuffer fun buffer _ => .of_convert (Marshal.quiet_newArray _ _ _)
  | ofDescriptor handle =>
    exact .of_withArray fun array _ => .of_convert (Marshal.quiet_ofDescriptor _ array)

end HostBridge
