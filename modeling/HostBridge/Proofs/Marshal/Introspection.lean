import HostBridge.Proofs.Marshal.Conversion

/-!
# What a host tells about its arrays

An arena answers two questions about an object: what type it has, and, if it is an array, how the
array is laid out. The second answer contains the number of elements, which is computed by
multiplying the extents from the first axis to the last, while an array is accepted by where its
elements lie. So there are arrays about which nothing is reported: those with a product of leading
extents that leaves a word, even if a later axis is empty. For all others the report leads to a
view, and the tests by which a view can be asked for agree with it.

## Main definitions

* `Arena.Ranked`: an array object with one stride per axis.

## Main results

* `Arena.Reachable.rank_eq`: all array objects of a reachable arena have one stride per axis;
* `Arena.arrayInfo_eq_some_iff`: what is reported, and for which objects;
* `Arena.Reachable.introspection_agrees`: the report against the type of an object;
* `Arena.Reachable.extract_agrees`: views for a named argument against the two tests.
-/

namespace HostBridge

namespace Arena

variable {arena : Arena} {ref : Ref}

/-! ## Array objects of a reachable arena -/

/-- An array object with one stride per axis, or any other object. -/
def Ranked : Object → Prop
  | .array array => array.shape.length = array.strides.length
  | _ => True

/-- What holds of all objects, and does not depend on bytes, still holds after a write through a
view. -/
theorem Stocked.setStorage {P : Object → Prop} (h : Stocked P arena)
    (hkeeps : ∀ array storage, P (.array array) → P (.array { array with storage }))
    (ref : Ref) (storage : Bytes) : Stocked P (arena.setStorage ref storage) := by
  cases hvalue : arena.value? ref with
  | none => simpa only [Arena.setStorage, hvalue] using h
  | some object =>
    cases object with
    | array array =>
      obtain ⟨slot, -, hnext⟩ := setStorage_of_array hvalue storage
      rw [hnext]
      refine h.of_set rfl ?_ fun _ => Or.inl
      intro object hobject
      cases hobject
      exact hkeeps array storage (h.value? hvalue)
    | _ => simpa only [Arena.setStorage, hvalue] using h

/-- All three ways to make an array object give it one stride per axis. -/
theorem ranked_of_apply {op : Operation} {object : Object} (h : (op.apply arena).1 = some ref)
    (hobject : op.object? = some object) : Ranked object := by
  cases op with
  | array kind shape values order =>
    cases hobject
    exact (Shape.length_denseStrides ..).symm
  | arrayFromParts kind shape strides offset bytes =>
    cases hobject
    exact (HostArray.rank_and_offset_of_layoutFits (arrayFromParts_eq_some (Prod.ext h rfl)).1).1
  | newArray shape typeCode bytes =>
    obtain ⟨kind, -, rfl⟩ := Option.map_eq_some_iff.mp hobject
    exact (Shape.length_denseStrides shape kind.width .rowMajor).symm
  | int | float | complex | str | newInt | newFloat | newComplex =>
    cases hobject
    trivial
  | _ => cases hobject

theorem Reachable.stocked (h : arena.Reachable) : Stocked Ranked arena := by
  induction h with
  | empty => exact stocked_empty (fun _ => trivial) trivial
  | step op _ ih =>
    refine ih.step (fun _ _ => ranked_of_apply) fun object pos patch hobject => ?_
    cases object <;> exact hobject
  | written ref _ _ ih => exact ih.setStorage (fun _ _ hranked => hranked) ref _

/-- All array objects of a reachable arena have one stride per axis. -/
theorem Reachable.rank_eq {array : HostArray} (h : arena.Reachable)
    (hvalue : arena.value? ref = some (.array array)) :
    array.shape.length = array.strides.length :=
  h.stocked.value? hvalue

/-! ## Type and report -/

theorem typeOf_eq_array_iff :
    arena.typeOf ref = .array ↔ ∃ array, arena.value? ref = some (.array array) := by
  rw [typeOf]
  cases hvalue : arena.value? ref with
  | none => simp
  | some object => cases object <;> simp [Object.type]

/-- What is reported about an object, and when. -/
theorem arrayInfo_eq_some_iff {info : ArrayInfo} :
    arena.arrayInfo ref = some info ↔ ∃ array length, arena.value? ref = some (.array array) ∧
      array.shape.count? = some length ∧ info = array.info ref length := by
  constructor
  · intro hinfo
    unfold arrayInfo at hinfo
    split at hinfo
    · rename_i array hvalue
      obtain ⟨length, hcount, rfl⟩ := Option.map_eq_some_iff.mp hinfo
      exact ⟨array, length, hvalue, hcount, rfl⟩
    · cases hinfo
  · rintro ⟨array, length, hvalue, hcount, rfl⟩
    rw [arrayInfo, hvalue]
    simp only [hcount, Option.map_some]
    rfl

end Arena

/-! ## Views and copies of what is reported -/

namespace Buffer

variable [Allocator] {kind : Kind} {fault : Fault}

/-- A buffer that is not made from the bytes of whole elements could not be given a block. -/
theorem category_of_create {defaultCapacity : Nat} {bytes : Bytes}
    (hwhole : bytes.length % kind.width = 0)
    (h : (create defaultCapacity kind bytes).run.result = .error fault) :
    fault.category = .allocation := by
  simp only [create, checkWhole_of_whole hwhole, Attempt.result_bind] at h
  cases hfresh : (withCapacity kind (grownCapacity defaultCapacity
      (bytes.length / kind.width))).run.result with
  | ok fresh =>
    rw [hfresh] at h
    cases h
  | error cause =>
    rw [hfresh] at h
    cases h
    exact category_of_withCapacity hfresh

end Buffer

namespace Marshal

variable {exchange : Exchange Arena} {ref : Ref} {array : HostArray} {length : Nat}

theorem outcome_arrayInfo_of_none (h : exchange.host.arrayInfo ref = none) :
    outcome (arrayInfo ref) exchange =
      outcome (fail "array" (Fault.conversion "ndarray" (exchange.host.typeOf ref).typeName))
        exchange := by
  rw [arrayInfo, outcome_bind, outcome_ask]
  simp only [id_eq, show Host.arrayInfo exchange.host ref = none from h]
  rfl

/-- A view for an argument about which the host reports nothing. -/
theorem result_extract_of_none (h : exchange.host.arrayInfo ref = none) (argument : String)
    (rank : Nat) (kind : Kind) :
    ∃ fault : Fault,
      (outcome (extract ref argument rank kind) exchange).1 = .error (fault.withArgument argument) ∧
        fault.category = .conversion := by
  refine ⟨Fault.conversion "ndarray" (exchange.host.typeOf ref).typeName, ?_, rfl⟩
  rw [extract, outcome_bind, outcome_named, outcome_arrayInfo_of_none h, outcome_fail]
  rfl

/-- A view for an argument, of an array object about which the host reports: the number of axes is
looked at before the kind. -/
theorem result_extract (hvalue : exchange.host.value? ref = some (.array array))
    (hcount : array.shape.count? = some length)
    (hrank : array.shape.length = array.strides.length) (argument : String) (rank : Nat)
    (kind : Kind) :
    (¬(array.shape.length = rank ∧ array.kind = kind) ∧ ∃ fault : Fault,
      (outcome (extract ref argument rank kind) exchange).1 = .error (fault.withArgument argument) ∧
        fault.category = if array.shape.length = rank then .conversion else .shape) ∨
    ((array.shape.length = rank ∧ array.kind = kind) ∧
      (outcome (extract ref argument rank kind) exchange).1 = .ok (array.view ref length)) := by
  have hkind : Kind.ofTypeCode? (array.info ref length).typeCode = some array.kind :=
    Kind.ofTypeCode?_typeCode array.kind
  rw [extract, outcome_bind, outcome_named, outcome_arrayInfo hvalue hcount]
  simp only [Except.mapError, show (array.info ref length).rank = array.shape.length from rfl,
    hkind]
  -- the fault is one of shape whenever the number of axes differs, so the kind is looked at last
  by_cases haxes : array.shape.length = rank
  · rw [if_neg (not_not.mpr haxes), if_pos haxes]
    by_cases hsame : array.kind = kind
    · refine Or.inr ⟨⟨haxes, hsame⟩, ?_⟩
      rw [if_neg (not_not.mpr (congrArg some hsame)), outcome_named,
        outcome_viewOfInfo hcount hrank]
      rfl
    · refine Or.inl ⟨fun hboth => hsame hboth.2,
        Fault.conversion s!"{kind.name} array" s!"{array.kind.name} array", ?_, rfl⟩
      rw [if_pos fun heq => hsame (Option.some.inj heq), outcome_bind, outcome_fail]
  · refine Or.inl ⟨fun hboth => haxes hboth.1,
      Fault.shape s!"rank {rank}" s!"rank {array.shape.length}", ?_, (if_neg haxes).symm⟩
    rw [if_pos haxes, outcome_bind, outcome_fail]

/-- A copy, of an array object about which the host reports, fails for its number of axes or for
want of memory. -/
theorem category_of_toBuffer [Allocator] {regions : Regions}
    (hvalue : exchange.host.value? ref = some (.array array))
    (hcount : array.shape.count? = some length)
    (hrank : array.shape.length = array.strides.length) {fault : Fault}
    (h : (outcome (toBuffer regions ref) exchange).1 = .error fault) :
    (array.shape.length ≠ 1 ∧ fault.category = .shape) ∨
      (array.shape.length = 1 ∧ fault.category = .allocation ∧
        ¬Buffer.Obtainable array.kind
          (Buffer.grownCapacity exchange.settings.current.1.defaultCapacity length)) := by
  by_cases hone : array.shape.length = 1
  · refine Or.inr ⟨hone, ?_, fun hblock => ?_⟩
    · have hsize := (array.view ref length).length_gather (regions (.object ref))
      rw [HostArray.outcome_toBuffer_of_row hvalue hone hcount hrank] at h
      exact Buffer.category_of_create (by rw [hsize]; exact Nat.mul_mod_left _ _) h
    · obtain ⟨buffer, hbuffer⟩ := (HostArray.exists_buffer_iff hvalue hone hcount hrank).mpr hblock
      rw [h] at hbuffer
      cases hbuffer
  · refine Or.inl ⟨hone, ?_⟩
    rw [toBuffer, outcome_bind, outcome_arrayInfo hvalue hcount] at h
    simp only [show (array.info ref length).rank = array.shape.length from rfl, if_pos hone,
      outcome_bind, outcome_fail] at h
    cases h
    rfl

end Marshal

namespace Arena

open Marshal (outcome extract toDescriptor toBuffer hasRank hasKind)

variable {arena : Arena} {exchange : Exchange Arena}

theorem isSome_arrayInfo_of_array {ref : Ref} {array : HostArray}
    (hvalue : arena.value? ref = some (.array array)) :
    (arena.arrayInfo ref).isSome = true ↔ array.shape.Countable := by
  rw [arrayInfo, hvalue]
  simp only [Option.isSome_map, Shape.isSome_count?]

theorem isSome_arrayInfo {ref : Ref} :
    (arena.arrayInfo ref).isSome = true ↔ arena.typeOf ref = .array ∧
      ∀ array, arena.value? ref = some (.array array) → array.shape.Countable := by
  constructor
  · intro hsome
    obtain ⟨info, hinfo⟩ := Option.isSome_iff_exists.mp hsome
    obtain ⟨array, length, hvalue, -⟩ := arrayInfo_eq_some_iff.mp hinfo
    exact ⟨typeOf_eq_array_iff.mpr ⟨array, hvalue⟩,
      fun found hfound => (isSome_arrayInfo_of_array hfound).mp hsome⟩
  · rintro ⟨htype, hall⟩
    obtain ⟨array, hvalue⟩ := typeOf_eq_array_iff.mp htype
    exact (isSome_arrayInfo_of_array hvalue).mpr (hall array hvalue)

theorem arrayInfo_eq_none_iff {ref : Ref} :
    arena.arrayInfo ref = none ↔ arena.isAlive ref = false ∨ arena.typeOf ref ≠ .array ∨
      ∃ array, arena.value? ref = some (.array array) ∧ ¬array.shape.Countable := by
  rw [← Option.not_isSome_iff_eq_none, isSome_arrayInfo, not_and_or]
  constructor
  · rintro (htype | hall)
    · exact Or.inr (Or.inl htype)
    · obtain ⟨array, hcount⟩ := not_forall.mp hall
      exact Or.inr (Or.inr ⟨array, Classical.not_imp.mp hcount⟩)
  · rintro (hgone | htype | ⟨array, hvalue, hcount⟩)
    · refine Or.inl fun htype => ?_
      obtain ⟨array, hvalue⟩ := typeOf_eq_array_iff.mp htype
      rw [isAlive, hvalue] at hgone
      cases hgone
    · exact Or.inl htype
    · exact Or.inr fun hall => hcount (hall array hvalue)

/-- A reference that is handed out names the object that was to be made. -/
theorem Reachable.value?_made (h : arena.Reachable) {op : Operation} {made : Ref} {object : Object}
    (hmade : (op.apply arena).1 = some made) (hobject : op.object? = some object) :
    (op.apply arena).2.value? made = some object := by
  rcases apply_cases arena op with (hplaces | hidles) | ⟨ref, rfl⟩ | ⟨ref, rfl⟩ |
    ⟨ref, pos, patch, rfl⟩
  -- a reference is handed out only when an object is put into a slot
  · obtain ⟨placed, hplaced, -, happly⟩ := hplaces
    rw [hobject] at hplaced
    cases hplaced
    rw [happly] at hmade ⊢
    cases hmade
    exact value?_place h.stocked.free_lt object
  · rw [hidles.1] at hmade
    cases hmade
  all_goals cases hmade

/-- An array object that is made from its bytes alone has as many as its elements, which are counted
first. -/
theorem countable_of_newArray {shape : Shape} {typeCode : Int} {bytes : Bytes} {made : Ref}
    (h : (arena.newArray shape typeCode bytes).1 = some made) : shape.Countable := by
  unfold newArray at h
  split at h
  · cases h
  · split at h
    · rename_i hsize
      obtain ⟨count, hcount, -⟩ := Option.bind_eq_some_iff.mp hsize
      rw [← Shape.isSome_count?, hcount]
      rfl
    · cases h

/-- What is reported about an object agrees with its type, but for arrays whose extents cannot be
multiplied from the first to the last. -/
theorem Reachable.introspection_agrees (h : arena.Reachable) (ref : Ref) :
    -- Something is reported about the arrays whose elements can be counted.
    ((arena.arrayInfo ref).isSome = true ↔ arena.typeOf ref = .array ∧
      ∀ array, arena.value? ref = some (.array array) → array.shape.Countable) ∧
    -- Nothing is reported about objects that are gone or no arrays, nor about the other arrays.
    (arena.arrayInfo ref = none ↔ arena.isAlive ref = false ∨ arena.typeOf ref ≠ .array ∨
      ∃ array, arena.value? ref = some (.array array) ∧ ¬array.shape.Countable) ∧
    -- What is reported leads to a view with the layout of the array, and a copy of the array fails
    -- for its number of axes or for want of memory only.
    (∀ info, arena.arrayInfo ref = some info →
      ∃ array, arena.value? ref = some (.array array) ∧
        ∀ exchange : Exchange Arena, exchange.host = arena →
          (∃ view, (outcome (toDescriptor ref) exchange).1 = .ok view ∧
            view.shape = array.shape ∧ view.strides = array.strides) ∧
          ∀ [Allocator] (regions : Regions) (fault : Fault),
            (outcome (toBuffer regions ref) exchange).1 = .error fault →
              (info.rank ≠ 1 ∧ fault.category = .shape) ∨
              (info.rank = 1 ∧ fault.category = .allocation ∧
                ¬Buffer.Obtainable array.kind
                  (Buffer.grownCapacity exchange.settings.current.1.defaultCapacity info.length))) ∧
    -- Of the calls that make an array one refuses what cannot be counted, the others do not.
    (∀ (op : Operation) (made : Ref) (array : HostArray), (op.apply arena).1 = some made →
      op.object? = some (.array array) → (op.apply arena).2.typeOf made = .array ∧
        (((op.apply arena).2.arrayInfo made).isSome = true ↔ array.shape.Countable)) ∧
    ∀ shape typeCode bytes made, (arena.newArray shape typeCode bytes).1 = some made →
      shape.Countable := by
  refine ⟨isSome_arrayInfo, arrayInfo_eq_none_iff, ?_, ?_, fun _ _ _ _ => countable_of_newArray⟩
  · intro info hinfo
    obtain ⟨array, length, hvalue, hcount, rfl⟩ := arrayInfo_eq_some_iff.mp hinfo
    have hrank := h.rank_eq hvalue
    refine ⟨array, hvalue, ?_⟩
    rintro exchange rfl
    refine ⟨⟨_, Marshal.outcome_toDescriptor hvalue hcount hrank, rfl, rfl⟩, ?_⟩
    intro _ regions fault hfault
    exact Marshal.category_of_toBuffer hvalue hcount hrank hfault
  · intro op made array hmade hobject
    have hvalue := h.value?_made hmade hobject
    exact ⟨typeOf_eq_array_iff.mpr ⟨array, hvalue⟩, isSome_arrayInfo_of_array hvalue⟩

/-- A host with an array whose middle axis is empty, just before its extents leave a word. -/
def punctual : Arena :=
  ((Operation.arrayFromParts .int8 [4294967296, 0, 4294967296] [0, 0, 0] 0 []).apply empty).2

theorem introspection_agrees_of_punctual :
    Reachable punctual ∧ punctual.typeOf ⟨3, 0⟩ = .array ∧
      (punctual.arrayInfo ⟨3, 0⟩).isSome = true := by
  have hreachable : Reachable punctual := .step _ .empty
  have hcountable : ∀ array, punctual.value? ⟨3, 0⟩ = some (.array array) →
      array.shape.Countable := by
    intro array hvalue
    cases hvalue
    decide
  exact ⟨hreachable, rfl,
    (hreachable.introspection_agrees ⟨3, 0⟩).1.mpr ⟨rfl, hcountable⟩⟩

/-- A host with an array whose last axis is empty: it has no elements, but its extents have left a
word before that. -/
def belated : Exchange Arena where
  host := (empty.arrayFromParts .int8 [4294967296, 4294967296, 0] [0, 0, 0] 0 []).2
  stats := {}
  settings := ⟨[], none⟩

/-- It is an array, but nothing is reported about it, and it cannot be viewed as the array that it
is. -/
theorem belated_is_not_reported :
    belated.host.typeOf ⟨3, 0⟩ = .array ∧ belated.host.arrayInfo ⟨3, 0⟩ = none ∧
      (outcome (toDescriptor ⟨3, 0⟩) belated).1 = .error (Fault.conversion "ndarray" "ndarray") :=
  ⟨rfl, rfl, rfl⟩

/-- A view for a named argument is obtained if and only if two tests are passed, and then it is a
view of the array object; otherwise the fault tells which test came first. -/
theorem Reachable.extract_agrees (h : exchange.host.Reachable) (ref : Ref) (argument : String)
    (rank : Nat) (kind : Kind) :
    ((∃ view, (outcome (extract ref argument rank kind) exchange).1 = .ok view) ↔
      hasRank exchange.host ref rank = true ∧ hasKind exchange.host ref kind = true) ∧
    -- The view has the layout of the array object and begins where its first element lies.
    (∀ view, (outcome (extract ref argument rank kind) exchange).1 = .ok view →
      ∃ array, exchange.host.value? ref = some (.array array) ∧
        view.kind = array.kind ∧ view.shape = array.shape ∧ view.strides = array.strides ∧
        view.length = array.shape.prod ∧
        view.source = .borrowed (some ⟨.object ref, array.offset⟩)) ∧
    -- A fault names the argument. It is one of shape if the number of axes differs, whatever the
    -- kind.
    (∀ fault, (outcome (extract ref argument rank kind) exchange).1 = .error fault →
      fault.argument = some argument ∧
      (exchange.host.arrayInfo ref = none → fault.category = .conversion) ∧
      ∀ info, exchange.host.arrayInfo ref = some info →
        fault.category = if info.rank = rank then .conversion else .shape) ∧
    -- However it ends, the host is as it was, its pending exception included.
    (outcome (extract ref argument rank kind) exchange).2.host = exchange.host := by
  have hhost := Marshal.silent_extract ref argument rank kind exchange
  cases hinfo : exchange.host.arrayInfo ref with
  | none =>
    obtain ⟨fault, hfault, hcategory⟩ := Marshal.result_extract_of_none hinfo argument rank kind
    rw [hfault]
    refine ⟨iff_of_false (by simp) fun htests => ?_, by simp, ?_, hhost⟩
    · rw [hasRank, show Host.arrayInfo exchange.host ref = none from hinfo] at htests
      cases htests.1
    · rintro _ ⟨rfl⟩
      exact ⟨rfl, fun _ => hcategory, by simp⟩
  | some info =>
    obtain ⟨array, length, hvalue, hcount, rfl⟩ := arrayInfo_eq_some_iff.mp hinfo
    -- the tests read the same report, so they come to the same comparisons
    have htests : hasRank exchange.host ref rank = true ∧ hasKind exchange.host ref kind = true ↔
        array.shape.length = rank ∧ array.kind = kind := by
      rw [hasRank, hasKind, show Host.arrayInfo exchange.host ref = _ from hinfo]
      simp [ArrayInfo.rank, HostArray.info, Kind.ofTypeCode?_typeCode]
    rw [htests]
    rcases Marshal.result_extract hvalue hcount (h.rank_eq hvalue) argument rank kind with
      ⟨hdiffers, fault, hfault, hcategory⟩ | ⟨hagrees, hview⟩
    · rw [hfault]
      refine ⟨iff_of_false (by simp) hdiffers, by simp, ?_, hhost⟩
      rintro _ ⟨rfl⟩
      refine ⟨rfl, by simp, ?_⟩
      rintro _ ⟨rfl⟩
      exact hcategory
    · rw [hview]
      refine ⟨iff_of_true ⟨_, rfl⟩ hagrees, ?_, by simp, hhost⟩
      rintro _ ⟨rfl⟩
      exact ⟨array, hvalue, rfl, rfl, rfl, (Shape.count?_eq_some hcount).1, rfl⟩

theorem extract_agrees_of_flipped :
    flipped.host.Reachable ∧
    (∃ view, (outcome (extract ⟨3, 0⟩ "grid" 2 .int32) flipped).1 = .ok view) ∧
    ∃ fault, (outcome (extract ⟨3, 0⟩ "grid" 1 .int16) flipped).1 = .error fault ∧
      fault.argument = some "grid" ∧ fault.category = .shape := by
  have hreachable : flipped.host.Reachable :=
    .step (.arrayFromParts .int32 [2, 3] [-12, 4] 12 (Bytes.zeros 24)) .empty
  obtain ⟨hview, -⟩ := hreachable.extract_agrees ⟨3, 0⟩ "grid" 2 .int32
  obtain ⟨-, -, hfault, -⟩ := hreachable.extract_agrees ⟨3, 0⟩ "grid" 1 .int16
  obtain ⟨hargument, -, hcategory⟩ := hfault _ rfl
  exact ⟨hreachable, hview.mpr ⟨rfl, rfl⟩, _, rfl, hargument, hcategory _ rfl⟩

end Arena

end HostBridge
