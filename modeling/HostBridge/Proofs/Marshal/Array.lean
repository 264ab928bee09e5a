import HostBridge.Proofs.Layout.Fit

/-!
# What array conversions come to

Array conversions ask the host, keep statistics and report events. This module says what is left of
them when the host is an arena: a view is a description of the array object, a buffer holds what was
read through that view, and a new array object is inserted with the bytes that were gathered.

## Main definitions

* `HostArray.info`, `HostArray.view`: what an arena reports about an array object, and its view;
* `HostArray.rowMajor`: the array object that is made from gathered bytes.

## Main results

* `Marshal.outcome_toDescriptor`, `Marshal.outcome_toBuffer`: conversions from array objects;
* `Marshal.outcome_newArray`: the conversion to an array object.
-/

namespace HostBridge

/-- A loop whose steps all succeed. -/
theorem Fault.mapM_eq_ok {α β : Type} {step : α → Except Fault β} {result : α → β} {items : List α}
    (h : ∀ item ∈ items, step item = .ok (result item)) :
    items.mapM step = .ok (items.map result) := by
  induction items with
  | nil => rfl
  | cons item items ih =>
    rw [List.mapM_cons, h item List.mem_cons_self, ok_bind,
      ih fun item hitem => h item (List.mem_cons_of_mem _ hitem)]
    rfl

namespace HostArray

/-- What an arena reports about an array object with so many elements. -/
def info (array : HostArray) (ref : Ref) (length : Nat) : ArrayInfo where
  data := some ⟨.object ref, array.offset⟩
  shape := array.shape
  strides := array.strides
  typeCode := array.kind.typeCode
  itemSize := array.kind.width
  length := length
  byteLength := Word.unsigned (length * array.kind.width)

/-- The view of an array object with so many elements. -/
def view (array : HostArray) (ref : Ref) (length : Nat) : Descriptor where
  kind := array.kind
  shape := array.shape
  strides := array.strides
  source := .borrowed (some ⟨.object ref, array.offset⟩)
  length := length
  byteLength := Word.unsigned (length * array.kind.width)

/-- A dense row-major array object whose storage begins with the given bytes. -/
def rowMajor (kind : Kind) (shape : Shape) (bytes : Bytes) : HostArray :=
  ofBytes kind shape (shape.denseStrides kind.width .rowMajor) 0 bytes

@[simp]
theorem kind_view (array : HostArray) (ref : Ref) (length : Nat) :
    (array.view ref length).kind = array.kind := rfl

end HostArray

namespace Marshal

variable {exchange : Exchange Arena} {ref : Ref} {array : HostArray} {length : Nat}

theorem outcome_arrayInfo (hvalue : exchange.host.value? ref = some (.array array))
    (hcount : array.shape.count? = some length) :
    outcome (arrayInfo ref) exchange = (.ok (array.info ref length), exchange) := by
  have hinfo : Host.arrayInfo exchange.host ref = some (array.info ref length) := by
    show exchange.host.arrayInfo ref = _
    rw [Arena.arrayInfo, hvalue]
    simp only [hcount, Option.map_some]
    rfl
  rw [arrayInfo, outcome_bind, outcome_ask]
  simp only [id_eq, hinfo, outcome_pure]

/-- Of an array object whose elements cannot be counted an arena reports nothing. -/
theorem outcome_arrayInfo_of_uncounted (hvalue : exchange.host.value? ref = some (.array array))
    (hcount : array.shape.count? = none) :
    ∃ fault, (outcome (arrayInfo ref) exchange).1 = .error fault := by
  have hnone : Host.arrayInfo exchange.host ref = none := by
    show exchange.host.arrayInfo ref = none
    rw [Arena.arrayInfo, hvalue]
    simp only [hcount, Option.map_none]
  rw [arrayInfo, outcome_bind, outcome_ask]
  simp only [id_eq, hnone, outcome_fail]
  exact ⟨_, rfl⟩

/-- The report of an arena is accepted, since its type number and item size belong together. -/
theorem outcome_viewOfInfo (hcount : array.shape.count? = some length)
    (hrank : array.shape.length = array.strides.length) :
    outcome (viewOfInfo (array.info ref length)) exchange =
      (.ok (array.view ref length),
        { exchange with stats := { exchange.stats with
          viewsCreated := exchange.stats.viewsCreated + 1 } }) := by
  have hkind : outcome (infoKind (array.info ref length)) exchange =
      (.ok array.kind, exchange) := by
    rw [infoKind]
    simp [HostArray.info, Kind.ofTypeCode?_typeCode, Option.filter]
  have hview : (Descriptor.ofStrided (array.info ref length).data (array.info ref length).shape
      (array.info ref length).strides array.kind).run.result = .ok (array.view ref length) := by
    rw [Descriptor.ofStrided]
    simp only [HostArray.info, hrank, ne_eq, not_true_eq_false, if_false, hcount]
    rfl
  have hlift (attempt : Attempt Descriptor) :
      outcome (H := Arena) (ExceptT.lift (StateT.lift attempt.outcome)) exchange =
        (.ok attempt.run.result, exchange) := rfl
  rw [viewOfInfo, outcome_bind, hkind]
  simp only [outcome_bind, hlift, hview, countView, outcome_count, outcome_emit, outcome_pure]

/-- An array object whose elements can be counted has a view. -/
theorem outcome_toDescriptor (hvalue : exchange.host.value? ref = some (.array array))
    (hcount : array.shape.count? = some length)
    (hrank : array.shape.length = array.strides.length) :
    (outcome (toDescriptor ref) exchange).1 = .ok (array.view ref length) := by
  rw [toDescriptor, outcome_bind, outcome_arrayInfo hvalue hcount]
  simp only [outcome_viewOfInfo hcount hrank]

/-- A buffer holds what was read through the view, element by element. -/
theorem outcome_toBuffer [Allocator] {regions : Regions} {elements : List Bytes}
    (hvalue : exchange.host.value? ref = some (.array array))
    (hcount : array.shape.count? = some length) (hone : array.shape.length = 1)
    (hrank : array.shape.length = array.strides.length)
    (helements : (List.range length).mapM (fun i =>
      (array.view ref length).elementBytes (regions (.object ref)) [i]) = .ok elements) :
    (outcome (toBuffer regions ref) exchange).1 =
      (Buffer.create exchange.settings.current.1.defaultCapacity array.kind
        elements.flatten).run.result := by
  have hinfo : ¬(array.info ref length).rank ≠ 1 := not_not.mpr hone
  rw [toBuffer, outcome_bind, outcome_arrayInfo hvalue hcount]
  simp only [if_neg hinfo, outcome_timed, outcome_bind, outcome_viewOfInfo hcount hrank,
    outcome_liftExcept]
  -- what remains cannot touch the elements that were read: it makes the buffer and counts it
  rw [show (List.range (array.view ref length).length).mapM _ = .ok elements from helements]
  simp only [outcome_defaultCapacity, outcome_attempt, countConversion, outcome_count,
    outcome_pure, HostArray.kind_view]
  rcases (Buffer.create _ _ _).run.result with _ | _ <;> rfl

/-- Without one axis or without a count no buffer is made, whatever the memory holds. -/
theorem toBuffer_refused [Allocator] (hvalue : exchange.host.value? ref = some (.array array))
    (h : array.shape.length ≠ 1 ∨ array.shape.count? = none) :
    ∃ fault, ∀ regions, (outcome (toBuffer regions ref) exchange).1 = .error fault := by
  cases hcount : array.shape.count? with
  | none =>
    obtain ⟨fault, hfault⟩ := outcome_arrayInfo_of_uncounted hvalue hcount
    refine ⟨fault, fun regions => ?_⟩
    rw [toBuffer, outcome_bind]
    rcases hinfo : outcome (arrayInfo ref) exchange with ⟨_ | info, after⟩
    · rw [hinfo] at hfault
      cases hfault
      rfl
    · rw [hinfo] at hfault
      cases hfault
  | some length =>
    have hrank : (array.info ref length).rank ≠ 1 := h.resolve_right (by rw [hcount]; nofun)
    refine ⟨Fault.shape "rank 1" s!"rank {(array.info ref length).rank}", fun regions => ?_⟩
    rw [toBuffer, outcome_bind, outcome_arrayInfo hvalue hcount]
    simp only [if_pos hrank, outcome_bind, outcome_fail]

/-- An array object is inserted if its bytes are those of as many elements as its shape has. -/
theorem newArray_eq_insert {shape : Shape} {kind : Kind} {bytes : Bytes}
    (hsize : (shape.count?.bind (Word.mul? · kind.width)) = some bytes.length) (arena : Arena) :
    arena.newArray shape kind.typeCode bytes =
      arena.insert (.array (.rowMajor kind shape bytes)) := by
  simp only [Arena.newArray, Kind.ofTypeCode?_typeCode, if_pos hsize]
  rfl

/-- A new array object whose bytes are those of as many elements as its shape has is made unless the
host is full. -/
theorem outcome_newArray {shape : Shape} {kind : Kind} {bytes : Bytes}
    (hsize : (shape.count?.bind (Word.mul? · kind.width)) = some bytes.length)
    (exchange : Exchange Arena) :
    (exchange.host.isFull = true ∧
        (outcome (newArray shape kind bytes) exchange).1 =
          .error (Fault.allocation "host array" bytes.length) ∧
        (outcome (newArray shape kind bytes) exchange).2.host =
          exchange.host.raise .memoryError "object limit reached") ∨
      exchange.host.isFull = false ∧
        ∃ after, after.host = (exchange.host.place (.array (.rowMajor kind shape bytes))).2 ∧
          outcome (newArray shape kind bytes) exchange =
            (.ok (exchange.host.place (.array (.rowMajor kind shape bytes))).1, after) := by
  have hinsert : Host.newArray exchange.host shape kind.typeCode bytes =
      exchange.host.insert (.array (.rowMajor kind shape bytes)) :=
    newArray_eq_insert hsize exchange.host
  rw [newArray, outcome_bind, outcome_primitive]
  simp only [hinsert, Arena.insert]
  by_cases hfull : exchange.host.isFull = true
  · refine Or.inl ⟨hfull, ?_⟩
    simp only [if_pos hfull, outcome_fail, true_and]
  · refine Or.inr ⟨Bool.eq_false_of_not_eq_true hfull, ⟨_, { exchange.stats with
      objectsCreated := exchange.stats.objectsCreated + 1 }, exchange.settings⟩, rfl, ?_⟩
    simp only [if_neg hfull, outcome_bind, countObject, outcome_count, outcome_emit, outcome_pure]

end Marshal

end HostBridge
