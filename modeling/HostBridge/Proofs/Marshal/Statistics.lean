import HostBridge.Proofs.Layout.Metadata
import HostBridge.Proofs.Marshal.Introspection

/-!
# What conversions are counted as

Conversions keep four counters. The helpers that they are made of count as they go: a view is
counted when it is obtained, a failure where it is reported, a value or an object at the end. This
module says what all of this adds up to, for every conversion and for every course of conversions,
however they end.

Every failure is counted once and then counts as nothing else, with one exception. A copy of an
array for which no memory can be had has already counted the view that it was going to read through,
and does not report its failure.

## Main definitions

* `Marshal.Tallies`: a conversion that counts as something if it ends well, and as a failure if not;
* `Conversion.tally`: what a conversion adds to the counters, given how it ended;
* `Conversion.Starves`: the copies for which no memory can be had;
* `Conversion.Course`: conversions one after the other.

## Main results

* `Marshal.copying_toBuffer`: the ways in which a copy of an array can end;
* `Conversion.stats_perform`: one conversion;
* `Conversion.Course.statistics_exact`: a course of conversions.
-/

namespace HostBridge

namespace Stats

instance : Zero Stats := ⟨{}⟩

/-- Counters add up one by one. -/
instance : Add Stats where
  add a b :=
    { conversions := a.conversions + b.conversions
      conversionErrors := a.conversionErrors + b.conversionErrors
      viewsCreated := a.viewsCreated + b.viewsCreated
      objectsCreated := a.objectsCreated + b.objectsCreated }

theorem add_def (a b : Stats) : a + b =
    ⟨a.conversions + b.conversions, a.conversionErrors + b.conversionErrors,
      a.viewsCreated + b.viewsCreated, a.objectsCreated + b.objectsCreated⟩ := rfl

instance : AddMonoid Stats where
  add_assoc a b c := by simp only [add_def, Nat.add_assoc]
  zero_add stats := by
    rw [add_def]
    congr 1 <;> exact Nat.zero_add _
  add_zero _ := rfl
  nsmul := nsmulRec

/-- What is due for something that is worth `credit` if it ends well. -/
def due {α : Type} (credit : Stats) : Except Fault α → Stats
  | .ok _ => credit
  | .error _ => { conversionErrors := 1 }

end Stats

namespace Marshal

variable {H R α β : Type} {credit : Stats}

/-! ## Conversions that are counted once -/

/-- A conversion that counts as `credit` if it ends well and as one failure if not. It does not look
at the settings. -/
structure Tallies (credit : Stats) (run : Marshal H α) : Prop where
  stats : ∀ exchange,
    (outcome run exchange).2.stats = exchange.stats + credit.due (outcome run exchange).1
  settings : ∀ exchange, (outcome run exchange).2.settings = exchange.settings

theorem tallies_pure (a : α) : Tallies 0 (pure a : Marshal H α) := ⟨fun _ => rfl, fun _ => rfl⟩

theorem tallies_ask (question : H → α) : Tallies 0 (ask question) := ⟨fun _ => rfl, fun _ => rfl⟩

theorem tallies_primitive (run : H → α × H) : Tallies 0 (primitive run) :=
  ⟨fun _ => rfl, fun _ => rfl⟩

theorem tallies_lift (run : Traced α) : Tallies 0 (ExceptT.lift (StateT.lift run) : Marshal H α) :=
  ⟨fun _ => rfl, fun _ => rfl⟩

/-- A failure is a failure, whatever it was to be worth. -/
theorem tallies_fail (target : String) (fault : Fault) :
    Tallies credit (fail target fault : Marshal H α) := ⟨fun _ => rfl, fun _ => rfl⟩

theorem tallies_fail_bind (target : String) (fault : Fault) (f : α → Marshal H β) :
    Tallies credit (fail target fault >>= f) := by
  constructor <;> intro exchange <;> rw [outcome_bind, outcome_fail]
  rfl

namespace Tallies

/-- What comes before the last step must not count. -/
protected theorem bind {x : Marshal H α} {f : α → Marshal H β} (hx : Tallies 0 x)
    (hf : ∀ a, Tallies credit (f a)) : Tallies credit (x >>= f) := by
  constructor <;> intro exchange <;> rw [outcome_bind]
  · have hfirst := hx.stats exchange
    rcases hrun : outcome x exchange with ⟨fault | a, after⟩
    · rwa [hrun] at hfirst
    · rw [hrun] at hfirst
      show (outcome (f a) after).2.stats = _
      rw [(hf a).stats after, hfirst]
      rfl
  · have hfirst := hx.settings exchange
    rcases hrun : outcome x exchange with ⟨fault | a, after⟩
    · rwa [hrun] at hfirst
    · rw [hrun] at hfirst
      exact ((hf a).settings after).trans hfirst

/-- What comes after the step that counts must neither count nor fail. -/
protected theorem map {x : Marshal H α} (hx : Tallies credit x) (f : α → β) :
    Tallies credit (x >>= fun a => pure (f a)) := by
  constructor <;> intro exchange <;> rw [outcome_bind]
  · have hfirst := hx.stats exchange
    rcases hrun : outcome x exchange with ⟨fault | a, after⟩ <;> rwa [hrun] at hfirst
  · have hfirst := hx.settings exchange
    rcases hrun : outcome x exchange with ⟨fault | a, after⟩ <;> rwa [hrun] at hfirst

protected theorem timed (operation : String) {run : Marshal H α} (h : Tallies credit run) :
    Tallies credit (timed operation run) := ⟨h.stats, h.settings⟩

protected theorem named (argument : String) {run : Marshal H α} (h : Tallies credit run) :
    Tallies credit (named argument run) := by
  constructor <;> intro exchange <;> rw [outcome_named]
  · rw [h.stats exchange]
    cases (outcome run exchange).1 <;> rfl
  · exact h.settings exchange

end Tallies

section Conversions

variable [Host H R]

/-! ### Scalars -/

theorem tallies_converted (source target : String) (value : α) :
    Tallies { conversions := 1 } (do
      countConversion
      emit (.converted source target)
      return value : Marshal H α) := ⟨fun _ => rfl, fun _ => rfl⟩

theorem tallies_readInt (target : String) (object : R) :
    Tallies 0 (readInt target object : Marshal H Int) := by
  refine (tallies_primitive _).bind fun value => (tallies_ask _).bind fun pending => ?_
  split
  · exact tallies_fail_bind _ _ _
  · exact tallies_pure value

theorem tallies_readFloat (target : String) (read : H → Binary64 × H) :
    Tallies 0 (readFloat target read : Marshal H Binary64) := by
  refine (tallies_primitive _).bind fun value => (tallies_ask _).bind fun pending => ?_
  split
  · exact tallies_fail_bind _ _ _
  · exact tallies_pure value

/-- A number that is out of range is a failure, though the host has read it. -/
theorem tallies_narrow (target : String) (bits : Nat) (object : R) :
    Tallies { conversions := 1 } (narrow target bits object : Marshal H Int) := by
  refine (tallies_readInt target object).bind fun value => ?_
  split
  · exact tallies_converted _ _ value
  · exact (tallies_primitive _).bind fun _ => tallies_fail _ _

theorem tallies_toBool (object : R) :
    Tallies { conversions := 1 } (toBool object : Marshal H Bool) := by
  refine (tallies_ask _).bind fun host => ?_
  split
  · exact tallies_converted _ _ true
  split
  · exact tallies_converted _ _ false
  · exact tallies_fail _ _

theorem tallies_readComplex (target : String) (object : R) :
    Tallies { conversions := 1 } (readComplex target object : Marshal H (Complex Binary64)) :=
  (tallies_readFloat _ _).bind fun _ => (tallies_readFloat _ _).bind fun _ =>
    tallies_converted _ _ _

theorem tallies_toValue (kind : Kind) (object : R) :
    Tallies { conversions := 1 } (toValue kind object : Marshal H (Value kind)) := by
  cases kind with
  | bool => exact tallies_toBool object
  | int8 | int16 | int32 => exact (tallies_narrow _ _ object).map _
  | int64 => exact (tallies_readInt _ object).bind fun _ => tallies_converted _ _ _
  | float32 | float64 => exact (tallies_readFloat _ _).bind fun _ => tallies_converted _ _ _
  | complex64 => exact (tallies_readComplex _ object).map _
  | complex128 => exact tallies_readComplex _ object

/-! ### Objects -/

omit [Host H R] in
theorem tallies_created (entity : String) (bytes : Nat) (make : H → Option R × H) :
    Tallies { objectsCreated := 1 } (created entity bytes make : Marshal H R) := by
  refine (tallies_primitive _).bind fun made => ?_
  cases made with
  | none => exact tallies_fail _ _
  | some object => exact ⟨fun _ => rfl, fun _ => rfl⟩

/-- The objects for the truth values are there already and are not counted. -/
theorem tallies_ofBool (value : Bool) : Tallies 0 (ofBool value : Marshal H R) :=
  (tallies_ask _).bind fun _ => (tallies_lift _).bind fun _ => tallies_primitive _

theorem tallies_ofValue (kind : Kind) (value : Value kind) :
    Tallies (if kind = .bool then 0 else { objectsCreated := 1 })
      (ofValue kind value : Marshal H R) := by
  cases kind with
  | bool => exact tallies_ofBool value
  | int8 | int16 | int32 | int64 | float32 | float64 | complex64 | complex128 =>
    exact tallies_created _ _ _

theorem tallies_newArray (shape : Shape) (kind : Kind) (bytes : Bytes) :
    Tallies { objectsCreated := 1 } (newArray shape kind bytes : Marshal H R) := by
  refine (tallies_primitive _).bind fun made => ?_
  cases made with
  | none => exact tallies_fail _ _
  | some object => exact ⟨fun _ => rfl, fun _ => rfl⟩

/-! ### Arrays -/

theorem tallies_arrayInfo (object : R) : Tallies 0 (arrayInfo object : Marshal H ArrayInfo) := by
  refine (tallies_ask _).bind fun host => ?_
  cases Host.arrayInfo host object with
  | some info => exact tallies_pure info
  | none => exact tallies_fail _ _

theorem tallies_infoKind (info : ArrayInfo) : Tallies 0 (infoKind info : Marshal H Kind) := by
  unfold infoKind
  split
  · exact tallies_pure _
  · exact tallies_fail _ _

theorem tallies_viewOfInfo (info : ArrayInfo) :
    Tallies { viewsCreated := 1 } (viewOfInfo info : Marshal H Descriptor) := by
  refine (tallies_infoKind info).bind fun kind => (tallies_lift _).bind fun found => ?_
  cases found with
  | error fault => exact tallies_fail _ _
  | ok view => exact ⟨fun _ => rfl, fun _ => rfl⟩

theorem tallies_toDescriptor (object : R) :
    Tallies { viewsCreated := 1 } (toDescriptor object : Marshal H Descriptor) :=
  (tallies_arrayInfo object).bind tallies_viewOfInfo

theorem tallies_extract (object : R) (argument : String) (rank : Nat) (kind : Kind) :
    Tallies { viewsCreated := 1 } (extract object argument rank kind : Marshal H Descriptor) := by
  refine ((tallies_arrayInfo object).named argument).bind fun info => ?_
  split
  · exact tallies_fail_bind _ _ _
  dsimp only
  split
  · exact tallies_fail_bind _ _ _
  · exact (tallies_viewOfInfo info).named argument

end Conversions

/-! ## Copies of arrays -/

end Marshal

theorem Descriptor.category_of_ofStrided {data : Option Address} {shape : Shape} {strides : Strides}
    {kind : Kind} {fault : Fault}
    (h : (ofStrided data shape strides kind).run.result = .error fault) :
    fault.category ≠ .allocation := by
  rw [category_of_ofStrided_eq h]
  split <;> decide

namespace Marshal

section Copies

variable {H R : Type} [Host H R] {exchange : Exchange H}

theorem category_of_arrayInfo {object : R} {fault : Fault}
    (h : (outcome (arrayInfo object) exchange).1 = .error fault) :
    fault.category ≠ .allocation := by
  rw [arrayInfo, outcome_bind, outcome_ask] at h
  cases hinfo : Host.arrayInfo exchange.host object with
  | some info =>
    simp only [id_eq, hinfo, outcome_pure] at h
    cases h
  | none =>
    simp only [id_eq, hinfo, outcome_fail] at h
    cases h
    exact fun hcategory => by cases hcategory

omit [Host H R] in
theorem category_of_viewOfInfo {info : ArrayInfo} {fault : Fault}
    (h : (outcome (viewOfInfo info) exchange).1 = .error fault) : fault.category ≠ .allocation := by
  rw [viewOfInfo, outcome_bind, infoKind] at h
  cases hkind : (Kind.ofTypeCode? info.typeCode).filter fun kind => kind.width == info.itemSize with
  | none =>
    rw [hkind] at h
    cases h
    exact fun hcategory => by cases hcategory
  | some kind =>
    have hlift (attempt : Attempt Descriptor) :
        outcome (H := H) (ExceptT.lift (StateT.lift attempt.outcome)) exchange =
          (.ok attempt.run.result, exchange) := rfl
    simp only [hkind, outcome_pure, outcome_bind, hlift] at h
    cases hview : (Descriptor.ofStrided info.data info.shape info.strides kind).run.result with
    | error cause =>
      rw [hview] at h
      cases h
      exact Descriptor.category_of_ofStrided hview
    | ok view =>
      rw [hview] at h
      cases h

omit [Host H R] in
/-- All elements of a view with one axis can be read. What is left is to make a buffer of them. -/
theorem outcome_copy [Allocator] {view : Descriptor} (hrow : view.shape = [view.length])
    (regions : Regions) {made : Except Fault Buffer}
    (hmade : (Buffer.create exchange.settings.current.1.defaultCapacity view.kind
      (view.gather (view.region regions))).run.result = made) :
    outcome (do
        let elements ← liftExcept ((List.range view.length).mapM fun i =>
          view.elementBytes (view.region regions) [i])
        let buffer ← attempt (Buffer.create (← defaultCapacity) view.kind elements.flatten)
        countConversion
        return buffer) exchange =
      (made,
        { exchange with
          stats := exchange.stats + { conversions := if made.isOk then 1 else 0 }
          settings := exchange.settings.current.2 }) := by
  have hreads := view.reads_of_row hrow regions
  rw [Descriptor.reads] at hreads
  rw [Descriptor.gather] at hmade
  simp only [hreads, outcome_bind, outcome_liftExcept, outcome_defaultCapacity, outcome_attempt,
    hmade]
  cases made with
  | error fault => rfl
  | ok buffer => rfl

/-- The ways in which a copy of an array can end. It may be refused before anything is read, which
is counted as a failure. Otherwise a view is counted and it remains to make a buffer: only then are
the settings read, and a failure from here on is not counted. -/
inductive Copying [Allocator] (exchange : Exchange H) (result : Except Fault Buffer)
    (after : Exchange H) : Prop
  | refused (fault : Fault) (hresult : result = .error fault)
      (hcategory : fault.category ≠ .allocation)
      (hstats : after.stats = exchange.stats + { conversionErrors := 1 })
      (hsettings : after.settings = exchange.settings)
  | attempted (kind : Kind) (bytes : Bytes) (hwhole : bytes.length % kind.width = 0)
      (hresult : result =
        (Buffer.create exchange.settings.current.1.defaultCapacity kind bytes).run.result)
      (hstats : after.stats = exchange.stats + { viewsCreated := 1 } +
        { conversions := if result.isOk then 1 else 0 })
      (hsettings : after.settings = exchange.settings.current.2)

theorem copying_toBuffer [Allocator] (regions : Regions) (object : R) (exchange : Exchange H) :
    Copying exchange (outcome (toBuffer regions object) exchange).1
      (outcome (toBuffer regions object) exchange).2 := by
  obtain ⟨hinfoStats, hinfoSettings⟩ := tallies_arrayInfo (H := H) object
  have hstats := hinfoStats exchange
  have hcell := hinfoSettings exchange
  rw [toBuffer, outcome_bind]
  -- the failures before the view is there are counted where they are reported
  rcases hinfo : outcome (arrayInfo object) exchange with ⟨fault | info, found⟩
  · rw [hinfo] at hstats hcell
    exact .refused fault rfl (category_of_arrayInfo (by rw [hinfo])) hstats hcell
  rw [hinfo] at hstats hcell
  replace hstats : found.stats = exchange.stats := hstats
  replace hcell : found.settings = exchange.settings := hcell
  by_cases hone : info.rank = 1
  · simp only [if_neg (not_not.mpr hone), outcome_timed]
    rw [outcome_bind]
    have hviewStats := (tallies_viewOfInfo info).stats found
    have hviewCell := (tallies_viewOfInfo info).settings found
    rw [hstats] at hviewStats
    rw [hcell] at hviewCell
    rcases hview : outcome (viewOfInfo info) found with ⟨fault | view, seen⟩
    · rw [hview] at hviewStats hviewCell
      exact .refused fault rfl (category_of_viewOfInfo (by rw [hview])) hviewStats hviewCell
    · rw [hview] at hviewStats hviewCell
      -- from here on the view is counted, and all that is left is to make a buffer of its elements
      obtain ⟨kind, -, hbuilt⟩ := viewOfInfo_eq_ok (congrArg Prod.fst hview)
      obtain ⟨length, -, hcount, hlayout⟩ := Descriptor.ofStrided_eq_ok hbuilt
      have hrow : view.shape = [view.length] := by
        rw [hlayout]
        exact Shape.eq_singleton hone hcount
      simp only [outcome_copy hrow regions rfl]
      replace hviewCell : seen.settings = exchange.settings := hviewCell
      replace hviewStats : seen.stats = exchange.stats + { viewsCreated := 1 } := hviewStats
      rw [hviewCell, hviewStats]
      refine .attempted view.kind (view.gather (view.region regions)) ?_ rfl rfl rfl
      rw [view.length_gather]
      exact Nat.mul_mod_left _ _
  · simp only [if_pos hone, outcome_bind, outcome_fail]
    exact .refused _ rfl (fun hcategory => by cases hcategory) (by rw [hstats]; rfl) hcell

end Copies

end Marshal

/-! ## All conversions -/

namespace Conversion

open Marshal (outcome Tallies)

/-- What a conversion counts as when it ends well. Truth values are made into objects that are there
already, and questions are not counted. -/
def credit : Conversion → Stats
  | toValue _ _ => { conversions := 1 }
  | toDescriptor _ | extract _ _ _ _ => { viewsCreated := 1 }
  | toBuffer _ => { conversions := 1, viewsCreated := 1 }
  | hasHostType _ _ | hasRank _ _ | hasKind _ _ => 0
  | ofValue kind _ => if kind = .bool then 0 else { objectsCreated := 1 }
  | ofBuffer _ | ofDescriptor _ => { objectsCreated := 1 }

/-- A copy of an array ended for want of memory. -/
def isNeglected : Conversion → Except Fault Converted → Bool
  | toBuffer _, .error fault => fault.category = .allocation
  | _, _ => false

/-- What a conversion adds to the counters, given how it ended. A copy that ended for want of memory
has counted a view, and its failure is forgotten. -/
def tally (conversion : Conversion) : Except Fault Converted → Stats
  | .ok _ => conversion.credit
  | .error fault =>
    if conversion.isNeglected (.error fault) then { viewsCreated := 1 }
    else { conversionErrors := 1 }

/-- A copy is to be made of an array with one axis, and no block can be had for it. -/
def Starves [Allocator] (exchange : Exchange Arena) : Conversion → Prop
  | toBuffer ref => ∃ array length, exchange.host.value? ref = some (.array array) ∧
      array.shape.length = 1 ∧ array.shape.count? = some length ∧
      ¬Buffer.Obtainable array.kind
        (Buffer.grownCapacity exchange.settings.current.1.defaultCapacity length)
  | _ => False

section Perform

variable [Allocator] {regions : Regions} {conversion : Conversion} {exchange : Exchange Arena}

/-- All conversions but copies of arrays are counted once. -/
theorem tallies_perform (h : ∀ ref, conversion ≠ .toBuffer ref) :
    Tallies conversion.credit (conversion.perform regions) := by
  cases conversion with
  | toValue kind ref => exact (Marshal.tallies_toValue kind ref).map _
  | toDescriptor ref => exact (Marshal.tallies_toDescriptor ref).map _
  | extract ref argument rank kind => exact (Marshal.tallies_extract ref argument rank kind).map _
  | toBuffer ref => exact absurd rfl (h ref)
  | hasHostType _ _ | hasRank _ _ | hasKind _ _ =>
    rw [credit, perform]
    exact Marshal.tallies_ask _
  | ofValue kind value => exact (Marshal.tallies_ofValue kind value).map _
  | ofBuffer buffer => exact (Marshal.tallies_newArray _ _ _).map _
  | ofDescriptor array => exact ((Marshal.tallies_newArray _ _ _).timed _).map _

omit [Allocator] in
theorem tally_eq_due (h : ∀ ref, conversion ≠ .toBuffer ref) (result : Except Fault Converted) :
    conversion.tally result = conversion.credit.due result := by
  cases result with
  | ok converted => rfl
  | error fault =>
    cases conversion with
    | toBuffer ref => exact absurd rfl (h ref)
    | _ => rfl

/-- A copy of an array is counted as a view and a value, or as a failure, or as a view alone. -/
theorem stats_toBuffer (regions : Regions) (ref : Ref) (exchange : Exchange Arena) :
    (outcome (perform regions (.toBuffer ref)) exchange).2.stats =
      exchange.stats +
        tally (.toBuffer ref) (outcome (perform regions (.toBuffer ref)) exchange).1 := by
  have hcopying := Marshal.copying_toBuffer regions ref exchange
  rw [perform, Marshal.outcome_bind]
  rcases hrun : outcome (Marshal.toBuffer regions ref) exchange with ⟨fault | buffer, after⟩ <;>
    rw [hrun] at hcopying
  · cases hcopying with
    | refused cause hresult hcategory hstats =>
      cases hresult
      have htally : tally (.toBuffer ref) (.error fault) = { conversionErrors := 1 } := by
        simp [tally, isNeglected, hcategory]
      exact htally ▸ hstats
    | attempted kind bytes hwhole hresult hstats =>
      have hcategory := Buffer.category_of_create hwhole hresult.symm
      have htally : tally (.toBuffer ref) (.error fault) = { viewsCreated := 1 } := by
        simp [tally, isNeglected, hcategory]
      exact htally ▸ hstats
  · cases hcopying with
    | refused cause hresult => cases hresult
    | attempted kind bytes hwhole hresult hstats => exact hstats

/-- One conversion adds to the counters what its outcome says. -/
theorem stats_perform (regions : Regions) (conversion : Conversion) (exchange : Exchange Arena) :
    (outcome (conversion.perform regions) exchange).2.stats =
      exchange.stats + conversion.tally (outcome (conversion.perform regions) exchange).1 := by
  cases conversion with
  | toBuffer ref => exact stats_toBuffer regions ref exchange
  | _ =>
    rw [tally_eq_due (by simp)]
    exact (tallies_perform (by simp)).stats exchange

omit [Allocator] in
theorem isNeglected_iff {ref : Ref} {result : Except Fault Converted} :
    isNeglected (.toBuffer ref) result = true ↔
      ∃ fault, result = .error fault ∧ fault.category = .allocation := by
  cases result with
  | ok converted => simp [isNeglected]
  | error fault => simp [isNeglected]

theorem perform_toBuffer_eq_error {ref : Ref} {fault : Fault} :
    (outcome (perform regions (.toBuffer ref)) exchange).1 = .error fault ↔
      (outcome (Marshal.toBuffer regions ref) exchange).1 = .error fault := by
  rw [perform, Marshal.outcome_bind]
  rcases outcome (Marshal.toBuffer regions ref) exchange with ⟨fault | buffer, after⟩ <;> simp

/-- The copies that end for want of memory are those for which no block can be had. -/
theorem isNeglected_perform (h : exchange.host.Reachable) :
    conversion.isNeglected (outcome (conversion.perform regions) exchange).1 = true ↔
      conversion.Starves exchange := by
  cases conversion with
  | toBuffer ref =>
    simp only [isNeglected_iff, perform_toBuffer_eq_error]
    constructor
    · rintro ⟨fault, hfault, hcategory⟩
      cases hinfo : exchange.host.arrayInfo ref with
      | none =>
        rw [Marshal.toBuffer, Marshal.outcome_bind, Marshal.outcome_arrayInfo_of_none hinfo]
          at hfault
        cases hfault
        cases hcategory
      | some info =>
        obtain ⟨array, length, hvalue, hcount, -⟩ := Arena.arrayInfo_eq_some_iff.mp hinfo
        rcases Marshal.category_of_toBuffer hvalue hcount (h.rank_eq hvalue) hfault with
          ⟨-, hshape⟩ | ⟨hone, -, hblock⟩
        · rw [hcategory] at hshape
          cases hshape
        · exact ⟨array, length, hvalue, hone, hcount, hblock⟩
    · rintro ⟨array, length, hvalue, hone, hcount, hblock⟩
      have hrank := h.rank_eq hvalue
      cases hresult : (outcome (Marshal.toBuffer regions ref) exchange).1 with
      | ok buffer =>
        -- a copy that was made had a block
        exact absurd ((HostArray.exists_buffer_iff hvalue hone hcount hrank).mp ⟨buffer, hresult⟩)
          hblock
      | error fault =>
        rcases Marshal.category_of_toBuffer hvalue hcount hrank hresult with
          ⟨hne, -⟩ | ⟨-, hmemory, -⟩
        · exact absurd hone hne
        · exact ⟨fault, rfl, hmemory⟩
  | _ => simp [isNeglected, Starves]

end Perform

/-! ## Conversions one after the other -/

/-- Conversions one after the other, each with how it ended, from the counters `start` on. Between
two of them the host, the memory and the settings may change in any way; the counters do not. -/
inductive Course (start : Stats) : List (Conversion × Except Fault Converted) → Stats → Prop
  | nil : Course start [] start
  | snoc [Allocator] {log : List (Conversion × Except Fault Converted)} (regions : Regions)
      (conversion : Conversion) {exchange : Exchange Arena}
      (before : Course start log exchange.stats) :
      Course start (log ++ [(conversion, (outcome (conversion.perform regions) exchange).1)])
        (outcome (conversion.perform regions) exchange).2.stats

/-- What all conversions of a course add to the counters. -/
def total (log : List (Conversion × Except Fault Converted)) : Stats :=
  (log.map fun entry => entry.1.tally entry.2).sum

/-- The counters say what was done. After any course of conversions, whatever the counters were
before it, they have grown by what is due for each, and so they do in the next conversion. -/
theorem Course.statistics_exact {start now : Stats}
    {log : List (Conversion × Except Fault Converted)} (h : Course start log now) :
    now = start + total log ∧
    ∀ [Allocator] (regions : Regions) (conversion : Conversion) (exchange : Exchange Arena),
      exchange.stats = now →
        (outcome (conversion.perform regions) exchange).2.stats =
          now + conversion.tally (outcome (conversion.perform regions) exchange).1 ∧
        -- The one failure that is not counted is that of a copy for which no block can be had.
        (exchange.host.Reachable →
          (conversion.isNeglected (outcome (conversion.perform regions) exchange).1 = true ↔
            conversion.Starves exchange)) := by
  refine ⟨?_, ?_⟩
  · induction h with
    | nil => rfl
    | @snoc _ log regions conversion exchange _ ih =>
      rw [stats_perform, ih, add_assoc, total, total, List.map_append, List.sum_append,
        List.map_singleton, List.sum_singleton]
  · rintro _ regions conversion exchange rfl
    exact ⟨stats_perform regions conversion exchange, isNeglected_perform⟩

/-- A host with an array of two elements, in a process that has read seven values. -/
def crowded : Exchange Arena where
  host := (Arena.empty.arrayFromParts .int8 [2] [1] 0 [1, 2]).2
  stats := { conversions := 7 }
  settings := ⟨[], none⟩

/-- When there is no memory for a copy of it, the copy fails, a view is counted and no failure
is. -/
theorem crowded_failure_is_not_counted :
    (outcome (@perform (Allocator.bounded 2) (fun _ => []) (.toBuffer ⟨3, 0⟩)) crowded).1.isOk =
      false ∧
    (outcome (@perform (Allocator.bounded 2) (fun _ => []) (.toBuffer ⟨3, 0⟩)) crowded).2.stats =
      { conversions := 7, conversionErrors := 0, viewsCreated := 1 } := by
  decide +kernel

theorem statistics_exact_of_crowded :
    ∃ log now, Course { conversions := 7 } log now ∧ now = { conversions := 7 } + total log ∧
      log.length = 1 ∧ crowded.host.Reachable ∧
      @Starves (Allocator.bounded 2) crowded (.toBuffer ⟨3, 0⟩) := by
  have hcourse := @Course.snoc _ (Allocator.bounded 2) [] (fun _ => [])
    (.toBuffer ⟨3, 0⟩) crowded .nil
  obtain ⟨htotal, -⟩ := hcourse.statistics_exact
  have hstart : Course crowded.stats [] crowded.stats := .nil
  obtain ⟨-, hnext⟩ := hstart.statistics_exact
  have hreachable : crowded.host.Reachable := .step (.arrayFromParts .int8 [2] [1] 0 [1, 2]) .empty
  obtain ⟨-, hneglected⟩ := @hnext (Allocator.bounded 2) (fun _ => [])
    (.toBuffer ⟨3, 0⟩) crowded rfl
  exact ⟨_, _, hcourse, htotal, rfl, hreachable, (hneglected hreachable).mp (by decide +kernel)⟩

end Conversion

end HostBridge
