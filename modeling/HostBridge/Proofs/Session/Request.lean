import HostBridge.Handle.Arrays
import HostBridge.Proofs.Buffer.Edit

/-!
# Calls through handles

All calls by which native code uses buffers and arrays through handles are brought under one type,
and so are their answers. Most of them end by recording an outcome. Such a call is either refused,
because a pointer is missing or a kind is unknown, or it stands for one piece of work on a buffer or
an array, which fails or succeeds. `Request.concludes` says once and for all what it leaves behind
in each of the three cases, and that its answer tells which; everything else that is known of these
calls is derived from it. A call works on a buffer where it is, so that work that fails leaves all
buffers as they were is not a matter of course: it rests on the edits being atomic.

## Main definitions

* `Request` and `Request.perform`: a call with its arguments, and what it does;
* `Request.Records`: the calls that record an outcome;
* `Work` and `Request.work`: the operation on buffers and arrays that a call stands for, if it is
  not refused;
* `Recorded` and `Unrecorded`: what a call leaves behind;
* `Concludes`: what a call leaves behind and returns, where the two agree.

## Main results

* `Call.editBuffer_of_error`: an atomic edit that fails leaves all buffers as they were;
* `Request.concludes`: every call that records an outcome is refused, fails or succeeds;
* `Request.unrecorded`: the calls that record none.
-/

namespace HostBridge

/-- A call through handles with its arguments, where a null handle or pointer is `none`. -/
inductive Request where
  -- calls on buffers that record an outcome
  | bufferCreate (tag : Nat) (data : Option Bytes) (count : Nat)
  | bufferAppend (handle other : Option Nat)
  | bufferInsert (handle : Option Nat) (index : Nat) (operand : Option Operand)
  | bufferRemoveAt (handle : Option Nat) (index : Nat)
  | bufferFindFirst (handle : Option Nat) (operand : Option Operand)
  | bufferCount (handle : Option Nat) (operand : Option Operand)
  | bufferRemoveValue (handle : Option Nat) (operand : Option Operand) (removed : Option Outlet)
  | bufferReverse (handle : Option Nat)
  | bufferClear (handle : Option Nat)
  | bufferCopy (handle : Option Nat)
  | bufferElementAt (handle : Option Nat) (index : Nat)
  | bufferAsArray (handle : Option Nat)
  -- calls on arrays that record an outcome
  | arrayOfDense (data : Option Address) (rank : Nat) (shape : Option Shape) (tag : Nat)
      (order : Int)
  | arrayOfStrided (data : Option Address) (rank : Nat) (shape : Option Shape)
      (strides : Option Strides) (tag : Nat)
  | arrayZeros (rank : Nat) (shape : Option Shape) (tag : Nat) (order : Int)
  | arrayElement (handle : Option Nat) (index : Option Index)
  -- calls that record none
  | bufferDestroy (handle : Option Nat)
  | bufferLength (handle : Option Nat)
  | bufferCapacity (handle : Option Nat)
  | bufferKind (handle : Option Nat)
  | arrayDestroy (handle : Option Nat)
  | arrayRank (handle : Option Nat)
  | arrayShape (handle : Option Nat)
  | arrayStrides (handle : Option Nat)
  | arrayKind (handle : Option Nat)
  | arrayLength (handle : Option Nat)
  | arrayByteLength (handle : Option Nat)
  | arrayIsView (handle : Option Nat)

/-- What a call yields. -/
inductive Answer where
  /-- Nothing. -/
  | done
  /-- A status code. -/
  | status (code : Int)
  /-- The position of an element. -/
  | position (index : Int)
  /-- A number of elements. -/
  | count (number : Int)
  /-- A new handle. -/
  | handle (handle : Option Nat)
  /-- The address of an element. -/
  | pointer (address : Option Address)
  /-- A size. -/
  | size (value : Nat)
  /-- The tag of a kind. -/
  | tag (value : Int)
  /-- The extents of an array. -/
  | shape (value : Option Shape)
  /-- The strides of an array. -/
  | strides (value : Option Strides)
  /-- A truth value. -/
  | flag (value : Bool)
  deriving DecidableEq

namespace Request

/-- What a call does. -/
def perform [Allocator] : Request → Call Answer
  | bufferCreate tag data count => .handle <$> Call.bufferCreate tag data count
  | bufferAppend handle other => .status <$> Call.bufferAppend handle other
  | bufferInsert handle index operand => .status <$> Call.bufferInsert handle index operand
  | bufferRemoveAt handle index => .status <$> Call.bufferRemoveAt handle index
  | bufferFindFirst handle operand => .position <$> Call.bufferFindFirst handle operand
  | bufferCount handle operand => .count <$> Call.bufferCount handle operand
  | bufferRemoveValue handle operand removed =>
    .status <$> Call.bufferRemoveValue handle operand removed
  | bufferReverse handle => .status <$> Call.bufferReverse handle
  | bufferClear handle => .status <$> Call.bufferClear handle
  | bufferCopy handle => .handle <$> Call.bufferCopy handle
  | bufferElementAt handle index => .pointer <$> Call.bufferElementAt handle index
  | bufferAsArray handle => .handle <$> Call.bufferAsArray handle
  | arrayOfDense data rank shape tag order =>
    .handle <$> Call.arrayOfDense data rank shape tag order
  | arrayOfStrided data rank shape strides tag =>
    .handle <$> Call.arrayOfStrided data rank shape strides tag
  | arrayZeros rank shape tag order => .handle <$> Call.arrayZeros rank shape tag order
  | arrayElement handle index => .pointer <$> Call.arrayElement handle index
  | bufferDestroy handle => (fun _ => .done) <$> Call.bufferDestroy handle
  | bufferLength handle => .size <$> Call.bufferLength handle
  | bufferCapacity handle => .size <$> Call.bufferCapacity handle
  | bufferKind handle => .tag <$> Call.bufferKind handle
  | arrayDestroy handle => (fun _ => .done) <$> Call.arrayDestroy handle
  | arrayRank handle => .size <$> Call.arrayRank handle
  | arrayShape handle => .shape <$> Call.arrayShape handle
  | arrayStrides handle => .strides <$> Call.arrayStrides handle
  | arrayKind handle => .tag <$> Call.arrayKind handle
  | arrayLength handle => .size <$> Call.arrayLength handle
  | arrayByteLength handle => .size <$> Call.arrayByteLength handle
  | arrayIsView handle => .flag <$> Call.arrayIsView handle

/-- The calls that record an outcome. -/
def Records : Request → Prop
  | bufferDestroy _ | bufferLength _ | bufferCapacity _ | bufferKind _ | arrayDestroy _
  | arrayRank _ | arrayShape _ | arrayStrides _ | arrayKind _ | arrayLength _
  | arrayByteLength _ | arrayIsView _ => False
  | _ => True

end Request

/-! ## The work behind a call -/

/-- The value that a handle names, with the handle. A null handle names nothing. -/
def Store.named? {α : Type} (store : Store α) (handle : Option Nat) : Option (Nat × α) :=
  handle.bind fun h => (store.get? h).map fun value => (h, value)

theorem Store.named?_eq_some {α : Type} {store : Store α} {handle : Option Nat} {found : Nat × α} :
    store.named? handle = some found ↔
      handle = some found.1 ∧ store.get? found.1 = some found.2 := by
  obtain ⟨h, value⟩ := found
  simp only [named?, Option.bind_eq_some_iff, Option.map_eq_some_iff, Prod.mk.injEq]
  constructor
  · rintro ⟨key, hkey, kept, hkept, rfl, rfl⟩
    exact ⟨hkey, hkept⟩
  · rintro ⟨hhandle, hfound⟩
    exact ⟨h, hhandle, value, hfound, rfl, rfl⟩

theorem Store.named?_of_get? {α : Type} {store : Store α} {handle : Nat} {value : α}
    (h : store.get? handle = some value) : store.named? (some handle) = some (handle, value) :=
  named?_eq_some.mpr ⟨rfl, h⟩

/-- What is told is written to a block of the caller, and to nothing else. -/
theorem Bridge.tell_eq (bridge : Bridge) (outlet : Option Outlet) (value : Bool) :
    bridge.tell outlet value = { bridge with blocks := (bridge.tell outlet value).blocks } := by
  cases outlet <;> rfl

theorem Bridge.buffers_tell (bridge : Bridge) (outlet : Option Outlet) (value : Bool) :
    (bridge.tell outlet value).buffers = bridge.buffers := by
  rw [tell_eq]

theorem Bridge.arrays_tell (bridge : Bridge) (outlet : Option Outlet) (value : Bool) :
    (bridge.tell outlet value).arrays = bridge.arrays := by
  rw [tell_eq]

/-- The order that a number stands for. -/
def Bridge.order (bridge : Bridge) (code : Int) : Order :=
  if code = 0 then .rowMajor
  else if code = 1 then .columnMajor
  else bridge.settings.current.1.order

/-- An operation on buffers and arrays. -/
inductive Work where
  /-- Make a buffer. -/
  | makeBuffer (run : Attempt Buffer)
  /-- Change the buffer behind a handle. -/
  | changeBuffer (handle : Nat) (run : Attempt Buffer)
  /-- Remove an element from the buffer behind a handle, and tell whether there was one. -/
  | removeElement (handle : Nat) (outcome : Except Fault (Bool × Buffer)) (removed : Option Outlet)
  /-- Make an array. -/
  | makeArray (run : Attempt Descriptor)
  /-- Look at something that may not be there, and change nothing. -/
  | inspect (outcome : Except Fault Unit)

/-- How the work ends: with a fault, or with what it makes of the state. -/
def Work.outcome (bridge : Bridge) : Work → Traced (Except Fault Bridge)
  | makeBuffer run =>
    ⟨run.run.result.map fun buffer => { bridge with buffers := (bridge.buffers.add buffer).2 },
      run.run.events⟩
  | changeBuffer handle run =>
    ⟨run.run.result.map fun buffer => { bridge with buffers := bridge.buffers.set handle buffer },
      run.run.events⟩
  | removeElement handle outcome removed =>
    ⟨outcome.map fun (found, buffer) =>
      Bridge.tell { bridge with buffers := bridge.buffers.set handle buffer } removed found, []⟩
  | makeArray run =>
    ⟨run.run.result.map fun array => { bridge with arrays := (bridge.arrays.add array).2 },
      run.run.events⟩
  | inspect outcome => ⟨outcome.map fun _ => bridge, []⟩

/-- The work that a call stands for, unless a pointer that it needs is null, a kind is unknown or a
size is no word. A buffer that is appended to itself is copied first. -/
def Request.work [Allocator] (bridge : Bridge) : Request → Option Work
  | bufferCreate tag data count => do
    let kind ← Kind.ofTag? tag
    let bytes ← (Word.mul? count kind.width).bind (Call.rawBytes? data)
    return .makeBuffer (Buffer.create bridge.settings.current.1.defaultCapacity kind bytes)
  | bufferAppend handle other => do
    let (h, buffer) ← bridge.buffers.named? handle
    let (k, appended) ← bridge.buffers.named? other
    -- without a copy the elements would be read from a block that is given back in between
    return .changeBuffer h (if h = k then buffer.appendCopy else buffer.append appended)
  | bufferInsert handle index operand => do
    let (h, buffer) ← bridge.buffers.named? handle
    let operand ← operand
    return .changeBuffer h (buffer.insert index (operand.load bridge buffer.kind.width))
  | bufferRemoveAt handle index => do
    let (h, buffer) ← bridge.buffers.named? handle
    return .changeBuffer h (liftExcept (buffer.removeAt index))
  | bufferFindFirst handle operand => do
    let (_, buffer) ← bridge.buffers.named? handle
    let operand ← operand
    return .inspect ((buffer.findFirst (operand.load bridge buffer.kind.width)).map fun _ => ())
  | bufferCount handle operand => do
    let (_, buffer) ← bridge.buffers.named? handle
    let operand ← operand
    return .inspect ((buffer.countEqual (operand.load bridge buffer.kind.width)).map fun _ => ())
  | bufferRemoveValue handle operand removed => do
    let (h, buffer) ← bridge.buffers.named? handle
    let operand ← operand
    return .removeElement h (buffer.removeValue (operand.load bridge buffer.kind.width)) removed
  | bufferReverse handle => do
    let (h, buffer) ← bridge.buffers.named? handle
    return .changeBuffer h (pure buffer.reverse)
  | bufferClear handle => do
    let (h, buffer) ← bridge.buffers.named? handle
    return .changeBuffer h (pure buffer.clear)
  | bufferCopy handle => do
    let (_, buffer) ← bridge.buffers.named? handle
    return .makeBuffer buffer.copy
  | bufferElementAt handle index => do
    let (_, buffer) ← bridge.buffers.named? handle
    return .inspect
      (if index < buffer.length then .ok () else .error (Fault.index index buffer.length))
  | bufferAsArray handle => do
    let (h, buffer) ← bridge.buffers.named? handle
    return .makeArray
      (Descriptor.ofDense (some ⟨.buffer h, 0⟩) [buffer.length] buffer.kind .rowMajor)
  | arrayOfDense data rank shape tag order => do
    let kind ← Kind.ofTag? tag
    let shape ← Call.rawList? shape rank
    return .makeArray (Descriptor.ofDense data shape kind (bridge.order order))
  | arrayOfStrided data rank shape strides tag => do
    let kind ← Kind.ofTag? tag
    let shape ← Call.rawList? shape rank
    let strides ← Call.rawList? strides rank
    return .makeArray (Descriptor.ofStrided data shape strides kind)
  | arrayZeros rank shape tag order => do
    let kind ← Kind.ofTag? tag
    let shape ← Call.rawList? shape rank
    return .makeArray (Descriptor.zeros shape kind (bridge.order order))
  | arrayElement handle index => do
    let (_, array) ← bridge.arrays.named? handle
    let index ← Call.rawList? index array.rank
    return .inspect ((array.byteOffset index).map fun _ => ())
  | _ => none

/-- The settings are left alone, except that they may have been read, and are then fixed. -/
def Settings.Cell.Read (before after : Settings.Cell) : Prop :=
  after = before ∨ after = before.current.2

/-- Reading the settings does not change them. -/
theorem Settings.Cell.Read.current_eq {before after : Settings.Cell} (h : before.Read after) :
    after.current.1 = before.current.1 := by
  obtain rfl | rfl := h
  · rfl
  · unfold current
    cases hinstalled : before.installed <;> simp [hinstalled]

theorem Settings.Cell.Read.environment_eq {before after : Settings.Cell} (h : before.Read after) :
    after.environment = before.environment := by
  obtain rfl | rfl := h
  · rfl
  · unfold current
    cases before.installed <;> rfl

/-- What a call that records an outcome leaves behind. The settings may have been read, and are then
fixed. -/
inductive Recorded (bridge : Bridge) : Option Work → Bridge → List Event → Prop
  /-- There is no work to do, for a reason that is recorded. -/
  | refused {after : Bridge} {events : List Event} {reason : String} (hreason : reason ≠ "")
      (hafter : after = { bridge with lastError := ⟨Call.refusedCode, reason⟩ })
      (hevents : events = [.callRefused reason]) : Recorded bridge none after events
  /-- The work ended in a fault. -/
  | failed {after : Bridge} {events : List Event} {work : Work} {fault : Fault}
      {cell : Settings.Cell} (hfault : (work.outcome bridge).result = .error fault)
      (hcell : bridge.settings.Read cell)
      (hafter : after =
        { bridge with settings := cell, lastError := ⟨fault.category.code, fault.message⟩ })
      (hevents : events =
        (work.outcome bridge).events ++ [.callFailed fault.category.code fault.message]) :
      Recorded bridge (some work) after events
  /-- The work was done. -/
  | succeeded {after : Bridge} {events : List Event} {work : Work} {next : Bridge}
      {cell : Settings.Cell} (hdone : (work.outcome bridge).result = .ok next)
      (hcell : bridge.settings.Read cell)
      (hafter : after = { next with settings := cell, lastError := {} })
      (hevents : events = (work.outcome bridge).events) : Recorded bridge (some work) after events

/-- What a call that records no outcome leaves behind. -/
inductive Unrecorded (bridge : Bridge) : Bridge → List Event → Prop
  /-- Nothing happened. -/
  | unchanged : Unrecorded bridge bridge []
  /-- A buffer was destroyed. -/
  | bufferDestroyed {handle : Nat} {buffer : Buffer}
      (hlive : bridge.buffers.get? handle = some buffer) :
      Unrecorded bridge { bridge with buffers := bridge.buffers.erase handle }
        (.bufferHandleDestroyed :: buffer.destroy.events)
  /-- An array was destroyed. -/
  | arrayDestroyed {handle : Nat} {array : Descriptor}
      (hlive : bridge.arrays.get? handle = some array) :
      Unrecorded bridge { bridge with arrays := bridge.arrays.erase handle }
        (.arrayHandleDestroyed :: array.destroy.events)

/-! ## How calls end -/

theorem Category.code_ne_zero (category : Category) : category.code ≠ 0 := by
  cases category <;> decide

/-- What an answer tells of the code that was recorded. A position and an address are missing not
only after a failure, but also when there is nothing to be `found`. -/
def Answer.Agrees (code : Int) (found : Prop) : Answer → Prop
  | status value => value = code
  | position index => index = -1 ↔ code ≠ 0 ∨ ¬ found
  | count number => number = -1 ↔ code ≠ 0
  | .handle made => made = none ↔ code ≠ 0
  | pointer address => address = none ↔ code ≠ 0 ∨ ¬ found
  | _ => True

/-- What a call searches for occurs: some element of the buffer has the given bytes. -/
def Request.Occurs (bridge : Bridge) : Request → Prop
  | bufferFindFirst handle operand =>
    ∃ found pointer, bridge.buffers.named? handle = some found ∧ operand = some pointer ∧
      pointer.load bridge found.2.kind.width ∈ found.2.elements
  | _ => True

/-- What a call searches for occurs, and the array whose element it asks for lies somewhere. -/
def Request.Finds (bridge : Bridge) : Request → Prop
  | arrayElement handle _ =>
    ∃ found, bridge.arrays.named? handle = some found ∧ found.2.source ≠ .borrowed none
  | request => request.Occurs bridge

/-- A call left behind what the outcome of its work asks for, and its answer agrees with it. -/
structure Concludes (bridge : Bridge) (work : Option Work) (found : Prop) (answer : Answer)
    (after : Bridge) (events : List Event) : Prop where
  recorded : Recorded bridge work after events
  agrees : answer.Agrees after.lastError.code found

/-- A call does its work and nothing else, or is refused. -/
def Request.Concluded [Allocator] (bridge : Bridge) (request : Request) : Prop :=
  Concludes bridge (request.work bridge) (request.Finds bridge) (request.perform bridge).result.1
    (request.perform bridge).result.2 (request.perform bridge).events

namespace Call

variable {α : Type}

theorem events_lift (x : Traced α) (bridge : Bridge) :
    ((StateT.lift x : Call α) bridge).events = x.events := List.append_nil _

theorem buffer?_bind (handle : Option Nat) (next : Option (Nat × Buffer) → Call α)
    (bridge : Bridge) :
    (buffer? handle >>= next) bridge = next (bridge.buffers.named? handle) bridge := rfl

theorem array?_bind (handle : Option Nat) (next : Option (Nat × Descriptor) → Call α)
    (bridge : Bridge) :
    (array? handle >>= next) bridge = next (bridge.arrays.named? handle) bridge := rfl

theorem element?_bind (buffer : Buffer) (operand : Option Operand)
    (next : Option Bytes → Call α) (bridge : Bridge) :
    (element? buffer operand >>= next) bridge =
      next (operand.map fun operand => operand.load bridge buffer.kind.width) bridge := rfl

/-! ## Edits of a buffer behind a handle -/

/-- What an edit leaves behind is put in the place of the buffer, whatever the outcome. -/
theorem editBuffer_eq (handle : Nat) (buffer : Buffer) (edit : Buffer.Edit α) (bridge : Bridge) :
    editBuffer handle buffer edit bridge =
      ⟨((edit.on buffer).result.1,
        { bridge with buffers := bridge.buffers.set handle (edit.left buffer) }),
        (edit.on buffer).events⟩ :=
  congrArg (Traced.mk _) (List.append_nil _ |>.trans (List.append_nil _))

theorem update_eq (handle : Nat) (buffer : Buffer) (edit : Buffer.Edit Unit) (bridge : Bridge) :
    update handle buffer edit bridge =
      bind (m := Traced) (editBuffer handle buffer edit bridge)
        fun done => status done.1 done.2 := rfl

section Edit

variable {bridge : Bridge} {handle : Nat} {buffer : Buffer}

/-- An atomic edit that ends in a fault leaves all buffers as they were. -/
theorem editBuffer_of_error {edit : Buffer.Edit α} {fault : Fault}
    (hlive : bridge.buffers.get? handle = some buffer) (hatomic : edit.Atomic)
    (h : (edit.on buffer).result.1 = .error fault) :
    editBuffer handle buffer edit bridge = ⟨(.error fault, bridge), (edit.on buffer).events⟩ := by
  rw [editBuffer_eq, hatomic buffer fault h, h, Store.set_self hlive]

variable {edit : Buffer.Edit Unit}

/-- A fault of an atomic edit is recorded, and nothing else changes. -/
theorem update_of_error {fault : Fault} (hlive : bridge.buffers.get? handle = some buffer)
    (hatomic : edit.Atomic) (h : (edit.made buffer).run.result = .error fault) :
    update handle buffer edit bridge =
      ⟨(fault.category.code, { bridge with lastError := ⟨fault.category.code, fault.message⟩ }),
        (edit.made buffer).run.events ++ [.callFailed fault.category.code fault.message]⟩ := by
  rw [update_eq, editBuffer_of_error hlive hatomic (Fault.map_eq_error h)]
  rfl

/-- An edit that succeeds puts the buffer that it makes in the place of the old one. -/
theorem update_of_ok {next : Buffer} (h : (edit.made buffer).run.result = .ok next) :
    update handle buffer edit bridge =
      ⟨(0, { bridge with buffers := bridge.buffers.set handle next, lastError := {} }),
        (edit.made buffer).run.events⟩ := by
  obtain ⟨_, hdone, -⟩ := Fault.map_eq_ok h
  rw [update_eq, editBuffer_eq, hdone, Buffer.Edit.left_of_made h]
  exact congrArg (Traced.mk _) (List.append_nil _)

end Edit

end Call

namespace Concludes

variable {bridge : Bridge} {cell : Settings.Cell} {found : Prop}

theorem of_refuse {f : Int → Answer} {reason : String} (hreason : reason ≠ "")
    (hagrees : (f Call.refusedCode).Agrees Call.refusedCode found) :
    Concludes bridge none found (f (Call.refuse reason bridge).result.1)
      (Call.refuse reason bridge).result.2 (Call.refuse reason bridge).events :=
  ⟨.refused hreason rfl rfl, hagrees⟩

theorem of_refuseNull {α : Type} {f : Option α → Answer} {reason : String}
    (hreason : reason ≠ "") (hagrees : (f none).Agrees Call.refusedCode found) :
    Concludes bridge none found (f (Call.refuseNull reason bridge).result.1)
      (Call.refuseNull (α := α) reason bridge).result.2
      (Call.refuseNull (α := α) reason bridge).events :=
  ⟨.refused hreason rfl rfl, hagrees⟩

/-- An atomic edit changes the buffer if it succeeds, and nothing if it does not. -/
theorem of_update {handle : Nat} {buffer : Buffer} {edit : Buffer.Edit Unit}
    (hlive : bridge.buffers.get? handle = some buffer) (hatomic : edit.Atomic) :
    Concludes bridge (some (.changeBuffer handle (edit.made buffer))) found
      (.status (Call.update handle buffer edit bridge).result.1)
      (Call.update handle buffer edit bridge).result.2
      (Call.update handle buffer edit bridge).events := by
  let work : Work := .changeBuffer handle (edit.made buffer)
  cases hresult : (edit.made buffer).run.result with
  | error fault =>
    have hfault : (work.outcome bridge).result = .error fault := congrArg (Except.map _) hresult
    rw [Call.update_of_error hlive hatomic hresult]
    exact ⟨.failed hfault (Or.inl rfl) rfl rfl, rfl⟩
  | ok next =>
    have hdone : (work.outcome bridge).result =
        .ok { bridge with buffers := bridge.buffers.set handle next } :=
      congrArg (Except.map _) hresult
    rw [Call.update_of_ok hresult]
    exact ⟨.succeeded hdone (Or.inl rfl) rfl rfl, rfl⟩

/-- A new buffer gets a handle. The settings may have been read for it. -/
theorem of_bufferHandle (hcell : bridge.settings.Read cell) (run : Attempt Buffer) :
    Concludes bridge (some (.makeBuffer run)) found
      (.handle (Call.bufferHandle run.run.result { bridge with settings := cell }).result.1)
      (Call.bufferHandle run.run.result { bridge with settings := cell }).result.2
      (run.run.events ++
        (Call.bufferHandle run.run.result { bridge with settings := cell }).events) := by
  cases hresult : run.run.result with
  | error fault =>
    have hfault : ((Work.makeBuffer run).outcome bridge).result = .error fault :=
      congrArg (Except.map _) hresult
    exact ⟨.failed hfault hcell rfl rfl, iff_of_true rfl fault.category.code_ne_zero⟩
  | ok buffer =>
    have hdone : ((Work.makeBuffer run).outcome bridge).result =
        .ok { bridge with buffers := (bridge.buffers.add buffer).2 } :=
      congrArg (Except.map _) hresult
    exact ⟨.succeeded hdone hcell rfl (List.append_nil _), iff_of_false nofun (fun h => h rfl)⟩

/-- A new array gets a handle. The settings may have been read for it. -/
theorem of_arrayHandle (hcell : bridge.settings.Read cell) (run : Attempt Descriptor) :
    Concludes bridge (some (.makeArray run)) found
      (.handle (Call.arrayHandle run.run.result { bridge with settings := cell }).result.1)
      (Call.arrayHandle run.run.result { bridge with settings := cell }).result.2
      (run.run.events ++
        (Call.arrayHandle run.run.result { bridge with settings := cell }).events) := by
  cases hresult : run.run.result with
  | error fault =>
    have hfault : ((Work.makeArray run).outcome bridge).result = .error fault :=
      congrArg (Except.map _) hresult
    exact ⟨.failed hfault hcell rfl rfl, iff_of_true rfl fault.category.code_ne_zero⟩
  | ok array =>
    have hdone : ((Work.makeArray run).outcome bridge).result =
        .ok { bridge with arrays := (bridge.arrays.add array).2 } :=
      congrArg (Except.map _) hresult
    exact ⟨.succeeded hdone hcell rfl (List.append_nil _), iff_of_false nofun (fun h => h rfl)⟩

/-- A look for something that is not there records a fault and changes nothing else. -/
theorem of_missing {answer : Answer} {fault : Fault}
    (hagrees : answer.Agrees fault.category.code found) :
    Concludes bridge (some (.inspect (.error fault))) found answer
      { bridge with lastError := ⟨fault.category.code, fault.message⟩ }
      [.callFailed fault.category.code fault.message] :=
  ⟨.failed rfl (Or.inl rfl) rfl rfl, hagrees⟩

/-- A look at something that is there changes nothing but the last error. -/
theorem of_found {answer : Answer} (hagrees : answer.Agrees 0 found) :
    Concludes bridge (some (.inspect (.ok ()))) found answer { bridge with lastError := {} } [] :=
  ⟨.succeeded rfl (Or.inl rfl) rfl rfl, hagrees⟩

end Concludes

/-! ## The calls one by one -/

namespace Call

variable {bridge : Bridge}

/-- Settings are read for an order only if the number names none. -/
theorem orderOf_eq (code : Int) (bridge : Bridge) :
    ∃ cell, bridge.settings.Read cell ∧
      orderOf code bridge = ⟨(bridge.order code, { bridge with settings := cell }), []⟩ := by
  unfold orderOf Bridge.order
  split
  · exact ⟨_, Or.inl rfl, rfl⟩
  · split
    · exact ⟨_, Or.inl rfl, rfl⟩
    · exact ⟨_, Or.inr rfl, rfl⟩

/-- Settings are read for a new buffer only if its bytes are whole elements; if they are not, no
capacity makes a buffer of them. -/
theorem createBuffer_eq [Allocator] (kind : Kind) (bytes : Bytes) (bridge : Bridge) :
    ∃ cell, bridge.settings.Read cell ∧ createBuffer kind bytes bridge =
      let run := Buffer.create bridge.settings.current.1.defaultCapacity kind bytes
      ⟨(run.run.result, { bridge with settings := cell }), run.run.events⟩ := by
  unfold createBuffer
  cases hwhole : Buffer.checkWhole kind bytes with
  | error fault =>
    -- the settings are not read here, so the capacity in `run` must not matter
    have hrun : (Buffer.create bridge.settings.current.1.defaultCapacity kind bytes).run =
        ⟨.error fault, []⟩ := by
      rw [Buffer.create, hwhole]
      rfl
    exact ⟨_, Or.inl rfl, by simp only [hrun]; rfl⟩
  | ok =>
    refine ⟨_, Or.inr rfl, ?_⟩
    exact congrArg (Traced.mk _) (List.append_nil _)

end Call

/-- A search comes back empty exactly when no element has the given bytes. -/
theorem Buffer.findFirst_eq_none {buffer : Buffer} {element : Bytes} {found : Option Nat}
    (h : buffer.findFirst element = .ok found) : found = none ↔ element ∉ buffer.elements := by
  unfold findFirst at h
  cases hcheck : buffer.checkElement element with
  | error fault =>
    rw [hcheck] at h
    cases h
  | ok =>
    rw [hcheck] at h
    cases h
    rw [List.findIdx?_eq_none_iff]
    constructor
    · intro hnone hmem
      exact absurd (hnone element hmem) (by simp)
    · intro hmem item hitem
      exact beq_eq_false_iff_ne.mpr fun heq => hmem (heq ▸ hitem)

/-- Only a view of nothing has no address. -/
theorem Call.arrayData_eq_none {handle : Nat} {array : Descriptor} :
    arrayData handle array = none ↔ array.source = .borrowed none := by
  unfold arrayData
  cases array.source <;> simp

/-! ## Calls on buffers -/

namespace Request

variable [Allocator] {bridge : Bridge}

/-! In each of the following proofs the arguments are split in the order in which the call checks
them, which is that of `work`; what is left is a refusal, or a run for one of the lemmas on
`Concludes`. -/

theorem concluded_bufferCreate (tag : Nat) (data : Option Bytes) (count : Nat) :
    (bufferCreate tag data count).Concluded bridge := by
  unfold Concluded perform work
  simp only [Call.result_map, Call.events_map, Call.bufferCreate]
  cases Kind.ofTag? tag with
  | none => exact .of_refuseNull (by decide) (iff_of_true rfl (by decide))
  | some kind =>
    simp only [Option.bind_eq_bind, Option.bind_some]
    cases (Word.mul? count kind.width).bind (Call.rawBytes? data) with
    | none => exact .of_refuseNull (by decide) (iff_of_true rfl (by decide))
    | some bytes =>
      obtain ⟨cell, hcell, hcreate⟩ := Call.createBuffer_eq kind bytes bridge
      simp only [Call.result_bind, Call.events_bind, hcreate]
      exact .of_bufferHandle hcell _

theorem concluded_bufferAppend (handle other : Option Nat) :
    (bufferAppend handle other).Concluded bridge := by
  unfold Concluded perform work
  simp only [Call.result_map, Call.events_map, Call.bufferAppend, Call.buffer?_bind]
  cases hfound : bridge.buffers.named? handle with
  | none => exact .of_refuse (by decide) rfl
  | some found =>
    have hlive := (Store.named?_eq_some.mp hfound).2
    cases bridge.buffers.named? other with
    | none => exact .of_refuse (by decide) rfl
    | some appended =>
      simp only [Option.bind_eq_bind, Option.bind_some]
      by_cases hself : found.1 = appended.1
      · simp only [hself, if_true] at hlive ⊢
        exact .of_update hlive Buffer.Edit.atomic_appendCopy
      · simp only [hself, if_false]
        exact .of_update hlive (Buffer.Edit.atomic_append _)

theorem concluded_bufferInsert (handle : Option Nat) (index : Nat) (operand : Option Operand) :
    (bufferInsert handle index operand).Concluded bridge := by
  unfold Concluded perform work
  simp only [Call.result_map, Call.events_map, Call.bufferInsert, Call.buffer?_bind]
  cases hfound : bridge.buffers.named? handle with
  | none => exact .of_refuse (by decide) rfl
  | some found =>
    cases operand with
    | none => exact .of_refuse (by decide) rfl
    | some operand =>
      exact .of_update (Store.named?_eq_some.mp hfound).2 (Buffer.Edit.atomic_insert _ _)

theorem concluded_bufferRemoveAt (handle : Option Nat) (index : Nat) :
    (bufferRemoveAt handle index).Concluded bridge := by
  unfold Concluded perform work
  simp only [Call.result_map, Call.events_map, Call.bufferRemoveAt, Call.buffer?_bind,
    ← Buffer.made_removeAt]
  cases hfound : bridge.buffers.named? handle with
  | none => exact .of_refuse (by decide) rfl
  | some found =>
    exact .of_update (Store.named?_eq_some.mp hfound).2 (Buffer.Edit.atomic_removeAt index)

theorem concluded_bufferFindFirst (handle : Option Nat) (operand : Option Operand) :
    (bufferFindFirst handle operand).Concluded bridge := by
  unfold Concluded perform work
  simp only [Call.result_map, Call.events_map, Call.bufferFindFirst, Call.buffer?_bind]
  cases hfound : bridge.buffers.named? handle with
  | none => exact .of_refuse (by decide) (iff_of_true rfl (Or.inl (by decide)))
  | some found =>
    cases operand with
    | none => exact .of_refuse (by decide) (iff_of_true rfl (Or.inl (by decide)))
    | some operand =>
      simp only [Call.element?_bind, Option.map_some, Option.bind_eq_bind, Option.bind_some]
      cases hfind : found.2.findFirst (operand.load bridge found.2.kind.width) with
      | error fault => exact .of_missing (iff_of_true rfl (Or.inl fault.category.code_ne_zero))
      | ok index =>
        have hfinds : (bufferFindFirst handle (some operand)).Finds bridge ↔
            operand.load bridge found.2.kind.width ∈ found.2.elements := by
          simp [Finds, Occurs, hfound]
        have hnone := Buffer.findFirst_eq_none hfind
        cases index with
        -- an element that does not occur is no failure, although -1 is returned for it
        | none => exact .of_found (iff_of_true rfl (Or.inr (mt hfinds.mp (hnone.mp rfl))))
        | some index =>
          have hindex : (index : Int) ≠ -1 := by omega
          have hmem := Classical.not_not.mp (mt hnone.mpr nofun)
          exact .of_found (iff_of_false hindex
            (not_or.mpr ⟨fun h => h rfl, fun h => h (hfinds.mpr hmem)⟩))

theorem concluded_bufferCount (handle : Option Nat) (operand : Option Operand) :
    (bufferCount handle operand).Concluded bridge := by
  unfold Concluded perform work
  simp only [Call.result_map, Call.events_map, Call.bufferCount, Call.buffer?_bind]
  cases bridge.buffers.named? handle with
  | none => exact .of_refuse (by decide) (iff_of_true rfl (by decide))
  | some found =>
    cases operand with
    | none => exact .of_refuse (by decide) (iff_of_true rfl (by decide))
    | some operand =>
      simp only [Call.element?_bind, Option.map_some, Option.bind_eq_bind, Option.bind_some]
      cases found.2.countEqual (operand.load bridge found.2.kind.width) with
      | error fault => exact .of_missing (iff_of_true rfl fault.category.code_ne_zero)
      | ok number =>
        have hnumber : (number : Int) ≠ -1 := by omega
        exact .of_found (iff_of_false hnumber (fun h => h rfl))

/-- Whether an element was removed is told only after the removal has succeeded. -/
theorem concluded_bufferRemoveValue (handle : Option Nat) (operand : Option Operand)
    (removed : Option Outlet) : (bufferRemoveValue handle operand removed).Concluded bridge := by
  unfold Concluded perform work
  simp only [Call.result_map, Call.events_map, Call.bufferRemoveValue, Call.buffer?_bind]
  cases hfound : bridge.buffers.named? handle with
  | none => exact .of_refuse (by decide) rfl
  | some found =>
    cases operand with
    | none => exact .of_refuse (by decide) rfl
    | some operand =>
      let element := operand.load bridge found.2.kind.width
      let edit := Buffer.Edit.removeValue element
      let work : Work := .removeElement found.1 (found.2.removeValue element) removed
      have hlive := (Store.named?_eq_some.mp hfound).2
      simp only [Call.element?_bind, Option.map_some, Option.bind_eq_bind, Option.bind_some,
        Call.result_bind, Call.events_bind]
      cases houtcome : (edit.on found.2).result.1 with
      | error fault =>
        have hfault : (work.outcome bridge).result = .error fault :=
          congrArg (Except.map _) (congrArg (Except.map _) houtcome)
        rw [Call.editBuffer_of_error hlive (Buffer.Edit.atomic_removeValue element) houtcome,
          Buffer.events_removeValue]
        exact ⟨.failed hfault (Or.inl rfl) rfl rfl, rfl⟩
      | ok there =>
        have hdone : (work.outcome bridge).result =
            .ok (Bridge.tell
              { bridge with buffers := bridge.buffers.set found.1 (edit.left found.2) }
              removed there) :=
          congrArg (Except.map _) (congrArg (Except.map _) houtcome)
        rw [Call.editBuffer_eq, houtcome, Buffer.events_removeValue]
        exact ⟨.succeeded hdone (Or.inl rfl) (by cases removed <;> rfl) rfl, rfl⟩

theorem concluded_bufferReverse (handle : Option Nat) :
    (bufferReverse handle).Concluded bridge := by
  unfold Concluded perform work
  simp only [Call.result_map, Call.events_map, Call.bufferReverse, Call.buffer?_bind]
  cases hfound : bridge.buffers.named? handle with
  | none => exact .of_refuse (by decide) rfl
  | some found => exact .of_update (Store.named?_eq_some.mp hfound).2 Buffer.Edit.atomic_reverse

theorem concluded_bufferClear (handle : Option Nat) : (bufferClear handle).Concluded bridge := by
  unfold Concluded perform work
  simp only [Call.result_map, Call.events_map, Call.bufferClear, Call.buffer?_bind]
  cases hfound : bridge.buffers.named? handle with
  | none => exact .of_refuse (by decide) rfl
  | some found => exact .of_update (Store.named?_eq_some.mp hfound).2 Buffer.Edit.atomic_clear

theorem concluded_bufferCopy (handle : Option Nat) : (bufferCopy handle).Concluded bridge := by
  unfold Concluded perform work
  simp only [Call.result_map, Call.events_map, Call.bufferCopy, Call.buffer?_bind]
  cases bridge.buffers.named? handle with
  | none => exact .of_refuseNull (by decide) (iff_of_true rfl (by decide))
  | some found =>
    simp only [Call.result_bind, Call.events_bind, Call.result_attempt, Call.events_attempt]
    exact .of_bufferHandle (Or.inl rfl) _

theorem concluded_bufferElementAt (handle : Option Nat) (index : Nat) :
    (bufferElementAt handle index).Concluded bridge := by
  unfold Concluded perform work
  simp only [Call.result_map, Call.events_map, Call.bufferElementAt, Call.buffer?_bind]
  cases bridge.buffers.named? handle with
  | none => exact .of_refuseNull (by decide) (iff_of_true rfl (Or.inl (by decide)))
  | some found =>
    simp only [Option.bind_eq_bind, Option.bind_some]
    by_cases hindex : index < found.2.length
    · simp only [hindex, if_true]
      exact .of_found (iff_of_false nofun (not_or.mpr ⟨fun h => h rfl, fun h => h trivial⟩))
    · simp only [hindex, if_false]
      exact .of_missing (iff_of_true rfl (Or.inl (Category.code_ne_zero _)))

/-! ## Calls on arrays -/

theorem concluded_bufferAsArray (handle : Option Nat) :
    (bufferAsArray handle).Concluded bridge := by
  unfold Concluded perform work
  simp only [Call.result_map, Call.events_map, Call.bufferAsArray, Call.buffer?_bind]
  cases bridge.buffers.named? handle with
  | none => exact .of_refuseNull (by decide) (iff_of_true rfl (by decide))
  | some found =>
    simp only [Call.result_bind, Call.events_bind, Call.result_attempt, Call.events_attempt]
    exact .of_arrayHandle (Or.inl rfl) _

theorem concluded_arrayOfDense (data : Option Address) (rank : Nat) (shape : Option Shape)
    (tag : Nat) (order : Int) : (arrayOfDense data rank shape tag order).Concluded bridge := by
  unfold Concluded perform work
  simp only [Call.result_map, Call.events_map, Call.arrayOfDense]
  cases Kind.ofTag? tag with
  | none => exact .of_refuseNull (by decide) (iff_of_true rfl (by decide))
  | some kind =>
    cases Call.rawList? shape rank with
    | none => exact .of_refuseNull (by decide) (iff_of_true rfl (by decide))
    | some shape =>
      obtain ⟨cell, hcell, horder⟩ := Call.orderOf_eq order bridge
      simp only [Call.result_bind, Call.events_bind, horder, Call.result_attempt,
        Call.events_attempt]
      exact .of_arrayHandle hcell _

theorem concluded_arrayOfStrided (data : Option Address) (rank : Nat) (shape : Option Shape)
    (strides : Option Strides) (tag : Nat) :
    (arrayOfStrided data rank shape strides tag).Concluded bridge := by
  unfold Concluded perform work
  simp only [Call.result_map, Call.events_map, Call.arrayOfStrided]
  cases Kind.ofTag? tag with
  | none => exact .of_refuseNull (by decide) (iff_of_true rfl (by decide))
  | some kind =>
    cases Call.rawList? shape rank with
    | none => exact .of_refuseNull (by decide) (iff_of_true rfl (by decide))
    | some shape =>
      cases Call.rawList? strides rank with
      | none => exact .of_refuseNull (by decide) (iff_of_true rfl (by decide))
      | some strides =>
        simp only [Call.result_bind, Call.events_bind, Call.result_attempt, Call.events_attempt]
        exact .of_arrayHandle (Or.inl rfl) _

theorem concluded_arrayZeros (rank : Nat) (shape : Option Shape) (tag : Nat) (order : Int) :
    (arrayZeros rank shape tag order).Concluded bridge := by
  unfold Concluded perform work
  simp only [Call.result_map, Call.events_map, Call.arrayZeros]
  cases Kind.ofTag? tag with
  | none => exact .of_refuseNull (by decide) (iff_of_true rfl (by decide))
  | some kind =>
    cases Call.rawList? shape rank with
    | none => exact .of_refuseNull (by decide) (iff_of_true rfl (by decide))
    | some shape =>
      obtain ⟨cell, hcell, horder⟩ := Call.orderOf_eq order bridge
      simp only [Call.result_bind, Call.events_bind, horder, Call.result_attempt,
        Call.events_attempt]
      exact .of_arrayHandle hcell _

theorem concluded_arrayElement (handle : Option Nat) (index : Option Index) :
    (arrayElement handle index).Concluded bridge := by
  unfold Concluded perform work
  simp only [Call.result_map, Call.events_map, Call.arrayElement, Call.array?_bind]
  cases hfound : bridge.arrays.named? handle with
  | none => exact .of_refuseNull (by decide) (iff_of_true rfl (Or.inl (by decide)))
  | some found =>
    simp only [Option.bind_eq_bind, Option.bind_some]
    cases Call.rawList? index found.2.rank with
    | none => exact .of_refuseNull (by decide) (iff_of_true rfl (Or.inl (by decide)))
    | some index =>
      simp only [Option.bind_some]
      cases found.2.byteOffset index with
      | error fault => exact .of_missing (iff_of_true rfl (Or.inl fault.category.code_ne_zero))
      | ok offset =>
        have hfinds : (arrayElement handle (some index)).Finds bridge ↔
            found.2.source ≠ .borrowed none := by
          simp [Finds, hfound]
        have haddress : (Call.arrayData found.1 found.2).map (·.shift offset) = none ↔
            found.2.source = .borrowed none := by
          rw [Option.map_eq_none_iff, Call.arrayData_eq_none]
        refine .of_found (haddress.trans ⟨fun hnowhere => Or.inr fun h => hfinds.mp h hnowhere, ?_⟩)
        rintro (hcode | hnot)
        · exact absurd rfl hcode
        · exact Classical.not_not.mp (mt hfinds.mpr hnot)

/-! ## All calls -/

/-- Every call that records an outcome does its work and nothing else, or is refused. -/
theorem concludes (request : Request) (bridge : Bridge) (h : request.Records) :
    request.Concluded bridge := by
  cases request with
  | bufferCreate tag data count => exact concluded_bufferCreate tag data count
  | bufferAppend handle other => exact concluded_bufferAppend handle other
  | bufferInsert handle index operand => exact concluded_bufferInsert handle index operand
  | bufferRemoveAt handle index => exact concluded_bufferRemoveAt handle index
  | bufferFindFirst handle operand => exact concluded_bufferFindFirst handle operand
  | bufferCount handle operand => exact concluded_bufferCount handle operand
  | bufferRemoveValue handle operand removed =>
    exact concluded_bufferRemoveValue handle operand removed
  | bufferReverse handle => exact concluded_bufferReverse handle
  | bufferClear handle => exact concluded_bufferClear handle
  | bufferCopy handle => exact concluded_bufferCopy handle
  | bufferElementAt handle index => exact concluded_bufferElementAt handle index
  | bufferAsArray handle => exact concluded_bufferAsArray handle
  | arrayOfDense data rank shape tag order => exact concluded_arrayOfDense data rank shape tag order
  | arrayOfStrided data rank shape strides tag =>
    exact concluded_arrayOfStrided data rank shape strides tag
  | arrayZeros rank shape tag order => exact concluded_arrayZeros rank shape tag order
  | arrayElement handle index => exact concluded_arrayElement handle index
  | _ => exact h.elim

/-- Every other call destroys something or only looks, and leaves the last error alone. -/
theorem unrecorded (request : Request) (bridge : Bridge) (h : ¬ request.Records) :
    Unrecorded bridge (request.perform bridge).result.2 (request.perform bridge).events := by
  cases request with
  | bufferDestroy handle =>
    simp only [perform, Call.result_map, Call.events_map, Call.bufferDestroy, Call.buffer?_bind]
    cases hfound : bridge.buffers.named? handle with
    | none => exact .unchanged
    | some found =>
      rw [Call.events_bind, Call.events_bind, Call.events_lift]
      exact .bufferDestroyed (Store.named?_eq_some.1 hfound).2
  | arrayDestroy handle =>
    simp only [perform, Call.result_map, Call.events_map, Call.arrayDestroy, Call.array?_bind]
    cases hfound : bridge.arrays.named? handle with
    | none => exact .unchanged
    | some found =>
      rw [Call.events_bind, Call.events_bind, Call.events_lift]
      exact .arrayDestroyed (Store.named?_eq_some.1 hfound).2
  | bufferLength | bufferCapacity | bufferKind | arrayRank | arrayShape | arrayStrides | arrayKind
  | arrayLength | arrayByteLength | arrayIsView => exact .unchanged
  | _ => exact absurd trivial h

end Request

end HostBridge
