import HostBridge.Marshal.Array
import HostBridge.Marshal.Scalar
import HostBridge.Proofs.Memory.Blocks

/-!
# Conversions and memory

A conversion borrows what it reads and hands what it makes to the host, so it obtains no native
memory. The one exception is the conversion of a host array to a buffer, which makes a buffer with a
block of its own.

## Main definitions

* `Marshal.Quiet`: a conversion that obtains nothing and gives nothing back, however it ends;
* `Marshal.Yields`: a conversion that makes something, with the blocks that were obtained for it.

## Main results

* `Marshal.quiet_toValue`, `Marshal.quiet_ofValue`, `Marshal.quiet_newArray`;
* `Marshal.yields_toDescriptor`, `Marshal.yields_extract` and `Marshal.yields_toBuffer`.
-/

namespace HostBridge.Marshal

open Account (Balanced Idle Made)

variable {H R α β : Type}

/-- The events that a conversion records. -/
def events (run : Marshal H α) (exchange : Exchange H) : List Event :=
  (run.run.run exchange).events

/-- A step that ended in a fault is the last one to record events. -/
theorem events_bind (x : Marshal H α) (f : α → Marshal H β) (exchange : Exchange H) :
    events (x >>= f) exchange = events x exchange ++
      match outcome x exchange with
      | (.ok a, next) => events (f a) next
      | (.error _, _) => [] := by
  have h : events (x >>= f) exchange = events x exchange ++
      (ExceptT.bindCont f (outcome x exchange).1 (outcome x exchange).2).events := rfl
  rw [h]
  rcases outcome x exchange with ⟨_ | _, _⟩ <;> rfl

theorem events_lift (run : Traced α) (exchange : Exchange H) :
    events (ExceptT.lift (StateT.lift run) : Marshal H α) exchange = run.events :=
  (List.append_nil _).trans (List.append_nil _)

theorem events_timed (operation : String) (run : Marshal H α) (exchange : Exchange H) :
    events (timed operation run) exchange = events run exchange ++ [.completed operation] := rfl

/-- Naming an argument does not show in the events. -/
theorem events_named (argument : String) (run : Marshal H α) (exchange : Exchange H) :
    events (named argument run) exchange = events run exchange := by
  have hbind (f : Except Fault α → StateT (Exchange H) Traced (Except Fault α)) :
      events (ExceptT.mk (run.run >>= f)) exchange = events run exchange ++
        (f (outcome run exchange).1 (outcome run exchange).2).events := rfl
  rw [named, hbind]
  rcases outcome run exchange with ⟨_ | _, _⟩ <;> exact List.append_nil _

/-- A conversion that obtains no memory and gives none back, however it ends. -/
def Quiet (run : Marshal H α) : Prop := ∀ exchange, Idle (run.events exchange)

/-- A conversion that makes something, with the blocks that were obtained for it. -/
def Yields (Good : α → Prop) (charges : α → Multiset Charge) (run : Marshal H α) : Prop :=
  ∀ exchange, Made Good charges (run.outcome exchange).1 (run.events exchange)

theorem quiet_pure (a : α) : Quiet (pure a : Marshal H α) := fun _ => Idle.nil

theorem quiet_throw (fault : Fault) : Quiet (throw fault : Marshal H α) := fun _ => Idle.nil

theorem quiet_emit {event : Event} (h : event.Silent) : Quiet (emit event : Marshal H Unit) :=
  fun _ => Idle.single h

theorem quiet_count (change : Stats → Stats) : Quiet (count change : Marshal H Unit) :=
  fun _ => Idle.nil

theorem quiet_primitive (run : H → α × H) : Quiet (primitive run) := fun _ => Idle.nil

theorem quiet_ask (question : H → α) : Quiet (ask question) := fun _ => Idle.nil

theorem quiet_lift {run : Traced α} (h : Idle run.events) :
    Quiet (ExceptT.lift (StateT.lift run) : Marshal H α) := by
  intro exchange
  rw [events_lift]
  exact h

theorem quiet_liftExcept (x : Except Fault α) : Quiet (liftExcept x : Marshal H α) := by
  cases x <;> exact fun _ => Idle.nil

theorem quiet_defaultCapacity : Quiet (defaultCapacity : Marshal H Nat) := fun _ => Idle.nil

namespace Quiet

protected theorem bind {x : Marshal H α} {f : α → Marshal H β} (hx : Quiet x)
    (hf : ∀ a, Quiet (f a)) : Quiet (x >>= f) := by
  intro exchange
  rw [events_bind]
  refine (hx exchange).append ?_
  split
  · exact hf _ _
  · exact Idle.nil

protected theorem named (argument : String) {run : Marshal H α} (h : Quiet run) :
    Quiet (named argument run) := by
  intro exchange
  rw [events_named]
  exact h exchange

protected theorem timed (operation : String) {run : Marshal H α} (h : Quiet run) :
    Quiet (timed operation run) := by
  intro exchange
  rw [events_timed]
  exact (h exchange).append (Idle.single ⟨rfl, rfl, rfl⟩)

end Quiet

theorem quiet_fail (target : String) (fault : Fault) : Quiet (fail target fault : Marshal H α) :=
  ((quiet_count _).bind fun _ => quiet_emit ⟨rfl, rfl, rfl⟩).bind fun _ => quiet_throw fault

namespace Yields

variable {Good : α → Prop} {charges : α → Multiset Charge}

/-- What a conversion ends with decides what it yields; what it did before is quiet. -/
protected theorem bind {x : Marshal H β} {f : β → Marshal H α} (hx : Quiet x)
    (hf : ∀ b exchange, (outcome x exchange).1 = .ok b → Yields Good charges (f b)) :
    Yields Good charges (x >>= f) := by
  intro exchange
  rw [events_bind, outcome_bind]
  rcases hresult : outcome x exchange with ⟨fault | b, next⟩
  · exact .of_idle ((hx exchange).append Idle.nil) nofun
  · exact .idle_append (hx exchange) (hf b exchange (by rw [hresult]) next)

protected theorem named (argument : String) {run : Marshal H α} (h : Yields Good charges run) :
    Yields Good charges (named argument run) := by
  intro exchange
  have hrun := h exchange
  rw [events_named, outcome_named]
  cases hresult : (outcome run exchange).1 with
  | error fault =>
    rw [hresult] at hrun
    exact .of_idle hrun nofun
  | ok made =>
    rw [hresult] at hrun
    exact hrun

protected theorem timed (operation : String) {run : Marshal H α} (h : Yields Good charges run) :
    Yields Good charges (timed operation run) := by
  intro exchange
  rw [outcome_timed, events_timed]
  exact (h exchange).append_idle (Idle.single ⟨rfl, rfl, rfl⟩)

/-- What was made may be handed on, if that cannot fail. -/
theorem followed {run : Marshal H α} {next : α → Marshal H α} (h : Yields Good charges run)
    (hnext : ∀ a exchange, (outcome (next a) exchange).1 = .ok a ∧
      Idle (events (next a) exchange)) :
    Yields Good charges (run >>= next) := by
  intro exchange
  have hrun := h exchange
  rw [events_bind, outcome_bind]
  rcases hresult : outcome run exchange with ⟨fault | a, after⟩
  · rw [hresult] at hrun
    exact .of_idle (Idle.append hrun Idle.nil) nofun
  · rw [hresult] at hrun
    obtain ⟨hkept, hidle⟩ := hnext a after
    show Made Good charges (outcome (next a) after).1 _
    rw [hkept]
    exact hrun.append_idle hidle

/-- A conversion that never makes anything with blocks is quiet. -/
theorem quiet {run : Marshal H α} (h : Yields Good (fun _ => 0) run) : Quiet run :=
  fun exchange => (h exchange).idle

end Yields

theorem yields_fail {Good : α → Prop} {charges : α → Multiset Charge} (target : String)
    (fault : Fault) : Yields Good charges (fail target fault : Marshal H α) :=
  fun exchange => .of_idle (quiet_fail target fault exchange) nofun

theorem yields_attempt {Good : α → Prop} {charges : α → Multiset Charge} {run : Attempt α}
    (h : Made Good charges run.run.result run.run.events) :
    Yields Good charges (attempt run : Marshal H α) := by
  intro exchange
  have hevents : events (attempt run : Marshal H α) exchange = run.run.events := List.append_nil _
  rw [hevents, outcome_attempt]
  exact h

/-- After a failure nothing is made. -/
theorem yields_fail_bind {Good : α → Prop} {charges : α → Multiset Charge} (target : String)
    (fault : Fault) (f : β → Marshal H α) : Yields Good charges (fail target fault >>= f) :=
  .bind (quiet_fail target fault) nofun

/-! ## Scalars -/

section Scalars

variable [Host H R]

theorem quiet_countConversion : Quiet (countConversion : Marshal H Unit) := quiet_count _

theorem quiet_readInt (target : String) (object : R) :
    Quiet (readInt target object : Marshal H Int) := by
  refine (quiet_primitive _).bind fun value => (quiet_ask _).bind fun pending => ?_
  split
  · exact (quiet_fail _ _).bind fun _ => quiet_pure _
  · exact quiet_pure _

theorem quiet_readFloat (target : String) (read : H → Binary64 × H) :
    Quiet (readFloat target read : Marshal H Binary64) := by
  refine (quiet_primitive _).bind fun value => (quiet_ask _).bind fun pending => ?_
  split
  · exact (quiet_fail _ _).bind fun _ => quiet_pure _
  · exact quiet_pure _

theorem quiet_converted (source target : String) :
    Quiet (emit (.converted source target) : Marshal H Unit) := quiet_emit ⟨rfl, rfl, rfl⟩

theorem quiet_narrow (target : String) (bits : Nat) (object : R) :
    Quiet (narrow target bits object : Marshal H Int) := by
  refine (quiet_readInt target object).bind fun value => ?_
  split
  · exact quiet_countConversion.bind fun _ => (quiet_converted _ _).bind fun _ => quiet_pure _
  · exact (quiet_primitive _).bind fun _ => quiet_fail _ _

theorem quiet_toBool (object : R) : Quiet (toBool object : Marshal H Bool) := by
  have hfound : ∀ value : Bool, Quiet (do
      countConversion
      emit (.converted "bool" "bool")
      return value : Marshal H Bool) := fun value =>
    quiet_countConversion.bind fun _ => (quiet_converted _ _).bind fun _ => quiet_pure value
  refine (quiet_ask _).bind fun host => ?_
  split
  · exact hfound true
  split
  · exact hfound false
  · exact quiet_fail _ _

theorem quiet_readComplex (target : String) (object : R) :
    Quiet (readComplex target object : Marshal H (Complex Binary64)) :=
  (quiet_readFloat _ _).bind fun _ => (quiet_readFloat _ _).bind fun _ =>
    quiet_countConversion.bind fun _ => (quiet_converted _ _).bind fun _ => quiet_pure _

/-- Reading a host object as a value obtains no memory. -/
theorem quiet_toValue (kind : Kind) (object : R) :
    Quiet (toValue kind object : Marshal H (Value kind)) := by
  cases kind with
  | bool => exact quiet_toBool object
  | int8 | int16 | int32 => exact (quiet_narrow _ _ object).bind fun _ => quiet_pure _
  | int64 =>
    exact (quiet_readInt _ object).bind fun _ => quiet_countConversion.bind fun _ =>
      (quiet_converted _ _).bind fun _ => quiet_pure _
  | float32 | float64 =>
    exact (quiet_readFloat _ _).bind fun _ => quiet_countConversion.bind fun _ =>
      (quiet_converted _ _).bind fun _ => quiet_pure _
  | complex64 => exact (quiet_readComplex _ object).bind fun _ => quiet_pure _
  | complex128 => exact quiet_readComplex _ object

end Scalars

theorem quiet_created (entity : String) (bytes : Nat) (make : H → Option R × H) :
    Quiet (created entity bytes make : Marshal H R) := by
  refine (quiet_primitive _).bind fun made => ?_
  cases made with
  | none => exact quiet_fail _ _
  | some object => exact (quiet_count _).bind fun _ => quiet_pure object

/-- The host frees nothing of ours when a reference is taken. -/
theorem idle_incref (arena : Arena) (ref : Ref) : Idle (arena.incref ref).events := by
  unfold Arena.incref
  split
  · split <;> exact Idle.nil
  · exact Idle.single ⟨rfl, rfl, rfl⟩

theorem quiet_ofBool (value : Bool) : Quiet (ofBool value : Marshal Arena Ref) :=
  (quiet_ask _).bind fun _ => (quiet_lift (idle_incref _ _)).bind fun _ => quiet_primitive _

/-- Making a host object from a value obtains no native memory. -/
theorem quiet_ofValue (kind : Kind) (value : Value kind) :
    Quiet (ofValue kind value : Marshal Arena Ref) := by
  cases kind with
  | bool => exact quiet_ofBool value
  | int8 | int16 | int32 | int64 | float32 | float64 | complex64 | complex128 =>
    exact quiet_created _ _ _

/-! ## Arrays -/

section Arrays

variable [Host H R]

theorem quiet_arrayInfo (object : R) : Quiet (arrayInfo object : Marshal H ArrayInfo) := by
  refine (quiet_ask _).bind fun host => ?_
  cases Host.arrayInfo host object with
  | some info => exact quiet_pure info
  | none => exact quiet_fail _ _

theorem quiet_infoKind (info : ArrayInfo) : Quiet (infoKind info : Marshal H Kind) := by
  unfold infoKind
  split
  · exact quiet_pure _
  · exact quiet_fail _ _

/-- A view of a host array is borrowed. -/
theorem yields_viewOfInfo (info : ArrayInfo) :
    Yields Descriptor.Borrowed (fun _ => 0) (viewOfInfo info : Marshal H Descriptor) := by
  refine .bind (quiet_infoKind info) fun kind _ _ => ?_
  have hborrowed := Descriptor.borrowed_ofStrided info.data info.shape info.strides kind
  refine .bind (quiet_lift hborrowed.idle) fun found _ hfound => ?_
  cases found with
  | error fault => exact yields_fail _ _
  | ok view =>
    -- the lift yields the outcome of the description itself
    have hview :
        (Descriptor.ofStrided info.data info.shape info.strides kind).run.result = .ok view :=
      Except.ok.inj hfound
    rw [hview] at hborrowed
    exact fun _ => .of_idle (Idle.single ⟨rfl, rfl, rfl⟩) fun _ hmade =>
      Except.ok.inj hmade ▸ ⟨hborrowed.good, rfl⟩

theorem yields_toDescriptor (object : R) :
    Yields Descriptor.Borrowed (fun _ => 0) (toDescriptor object : Marshal H Descriptor) :=
  .bind (quiet_arrayInfo object) fun info _ _ => yields_viewOfInfo info

theorem yields_extract (object : R) (argument : String) (rank : Nat) (kind : Kind) :
    Yields Descriptor.Borrowed (fun _ => 0)
      (extract object argument rank kind : Marshal H Descriptor) := by
  refine .bind ((quiet_arrayInfo object).named argument) fun info _ _ => ?_
  split
  · exact yields_fail_bind _ _ _
  dsimp only
  split
  · exact yields_fail_bind _ _ _
  · exact (yields_viewOfInfo info).named argument

/-- A buffer made from a host array has a block of its own. -/
theorem yields_toBuffer [Allocator] (regions : Regions) (object : R) :
    Yields Buffer.Sound (fun buffer => {buffer.charge})
      (toBuffer regions object : Marshal H Buffer) := by
  refine .bind (quiet_arrayInfo object) fun info _ _ => ?_
  split
  · exact yields_fail_bind _ _ _
  refine .timed _ (.bind (yields_viewOfInfo info).quiet fun view _ _ => ?_)
  refine .bind (quiet_liftExcept _) fun elements _ _ => ?_
  refine .bind quiet_defaultCapacity fun capacity _ _ => ?_
  have hmade := Buffer.made_create capacity view.kind elements.flatten
  exact (yields_attempt hmade).followed fun _ _ => ⟨rfl, Idle.nil⟩

/-- The bytes of a new host array belong to the host. -/
theorem quiet_newArray (shape : Shape) (kind : Kind) (bytes : Bytes) :
    Quiet (newArray shape kind bytes : Marshal H R) := by
  refine (quiet_primitive _).bind fun made => ?_
  cases made with
  | none => exact quiet_fail _ _
  | some object =>
    exact (quiet_count _).bind fun _ => (quiet_converted _ _).bind fun _ => quiet_pure object

theorem quiet_ofDescriptor (regions : Regions) (array : Descriptor) :
    Quiet (ofDescriptor regions array : Marshal H R) :=
  (quiet_newArray _ _ _).timed _

end Arrays

end HostBridge.Marshal
