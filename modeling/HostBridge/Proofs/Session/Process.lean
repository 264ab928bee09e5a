import HostBridge.Proofs.Session.Growth

/-!
# Settings in a process

The settings of a process are fixed by whoever installs or reads them first, while the environment
that they may come from can change at any time. Whatever happens, settings that are fixed stay as
they are and are valid. So the default capacity is a power of two, and every buffer that is made
with it has a power of two for its capacity from then on.

## Main definitions

* `Process` and `Happening`: a process, in which the handles of standard buffers are noted, and what
  can happen in it;
* `Process.Leads`: everything that can happen in a process, one after the other;
* `Process.Sane`: what holds throughout a process.

## Main results

* `Process.Sane.next`, `Process.Leads.sane`: it goes on to hold;
* `Process.settings_fixed_and_valid`: settings and capacities in a process.
-/

namespace HostBridge

/-- A process: the state of the bridge, and the handles of all standard buffers that were made. -/
structure Process where
  bridge : Bridge
  standard : List Nat

/-- Something that happens in a process. -/
inductive Happening : Type 1 where
  /-- The environment changes. -/
  | setEnvironment (environment : Environment)
  /-- Settings are installed. -/
  | install (settings : Settings)
  /-- The settings are read. -/
  | readSettings
  /-- Something is done with buffers, arrays and host objects, or the library is started or
  stopped. -/
  | act (action : Action)
  /-- An array of another host is copied into a buffer. -/
  | copyFrom {H R : Type} [Host H R] (host : H) (object : R)
  /-- Everything else changes: the host, the memory of the caller, the counters, the last error. -/
  | meanwhile (other : Bridge)

namespace Happening

/-- What it does to the bridge. -/
def perform [Allocator] : Happening → Call Unit
  | setEnvironment environment =>
    modify fun bridge => { bridge with settings := { bridge.settings with environment } }
  | install settings => Call.only (Call.install settings)
  | readSettings => Call.only Call.settings
  | act action => action.perform
  | copyFrom host object => do
    Call.keepBuffer (Call.convertWith host (Marshal.toBuffer (← get).regions object))
  | meanwhile other =>
    modify fun bridge => { other with
      settings := bridge.settings
      buffers := bridge.buffers
      arrays := bridge.arrays }

/-- Whether it makes a standard buffer. -/
def isStandard (standard : List Nat) : Happening → Bool
  | act action => action.isStandard standard
  | copyFrom .. => true
  | _ => false

/-- Only valid settings are installed. -/
def Lawful : Happening → Prop
  | install settings => settings.validate = .ok ()
  | _ => True

end Happening

/-- The handles that name a buffer in one state and did not in an earlier one. -/
def Bridge.newcomers (before after : Bridge) : List Nat :=
  (after.buffers.entries.map Prod.fst).filter fun handle => (before.buffers.get? handle).isNone

namespace Process

/-- A process at its start, with the given environment. -/
def start (environment : Environment) : Process := ⟨Bridge.start ⟨environment, none⟩, []⟩

/-- A process after something has happened. If a standard buffer was made, its handle is noted. -/
def next [Allocator] (process : Process) (happening : Happening) : Process :=
  let after := (happening.perform process.bridge).result.2
  let made := if happening.isStandard process.standard then process.bridge.newcomers after else []
  ⟨after, process.standard ++ made⟩

/-- One state of a process is followed by another. What memory can be had may differ from one
happening to the next. -/
inductive Leads (process : Process) : Process → Prop
  | refl : Leads process process
  | step [Allocator] {last : Process} (before : Leads process last) (happening : Happening)
      (hlawful : happening.Lawful) : Leads process (last.next happening)

/-- What holds throughout a process. -/
structure Sane (process : Process) : Prop where
  orderly : process.bridge.Orderly
  regulated : process.bridge.Regulated process.standard
  lt_upcoming : ∀ handle ∈ process.standard, handle < process.bridge.buffers.upcoming

theorem sane_start (environment : Environment) : (start environment).Sane where
  orderly := Bridge.orderly_start _
  regulated := ⟨by simp [start, Bridge.start, Settings.Cell.Valid], by simp [start]⟩
  lt_upcoming := by simp [start]

/-- A handle that is noted was noted before, or names a new buffer that is standard. -/
theorem mem_standard_next [Allocator] {process : Process} {happening : Happening} {handle : Nat}
    (h : handle ∈ (process.next happening).standard) :
    handle ∈ process.standard ∨ happening.isStandard process.standard = true ∧
      process.bridge.buffers.get? handle = none ∧
      ∃ entry ∈ (process.next happening).bridge.buffers.entries, entry.1 = handle := by
  refine (List.mem_append.mp h).imp_right fun hmade => ?_
  split at hmade
  · rename_i hstandard
    obtain ⟨hentry, hnew⟩ := List.mem_filter.mp hmade
    exact ⟨hstandard, Option.isNone_iff_eq_none.mp hnew, List.mem_map.mp hentry⟩
  · cases hmade

theorem mem_standard_of_new [Allocator] {process : Process} {happening : Happening} {handle : Nat}
    {buffer : Buffer} (hstandard : happening.isStandard process.standard = true)
    (hnew : process.bridge.buffers.get? handle = none)
    (hlive : (process.next happening).bridge.buffers.get? handle = some buffer) :
    handle ∈ (process.next happening).standard := by
  have hentry := List.mem_map_of_mem (f := Prod.fst) (Store.mem_of_get? hlive)
  refine List.mem_append_right _ ?_
  rw [if_pos hstandard]
  exact List.mem_filter.mpr ⟨hentry, Option.isNone_iff_eq_none.mpr hnew⟩

namespace Sane

variable [Allocator] {process : Process} (h : process.Sane) {happening : Happening}
include h

theorem orderly_next (happening : Happening) : (process.next happening).bridge.Orderly := by
  obtain ⟨hbuffers, harrays, hsound, hanchored⟩ := h.orderly
  cases happening with
  | setEnvironment | install | readSettings | meanwhile =>
    exact ⟨hbuffers, harrays, hsound, hanchored⟩
  | act action => exact (action.step h.orderly).orderly h.orderly
  | @copyFrom H R _ host object =>
    have hmade := Marshal.yields_toBuffer (H := H) process.bridge.regions object
      ⟨host, process.bridge.stats, process.bridge.settings⟩
    let make := Call.convertWith host (Marshal.toBuffer process.bridge.regions object)
    have hstep : Step process.bridge (Call.keepBuffer make process.bridge).result.2
        (Call.keepBuffer make process.bridge).events :=
      .of_keepBuffer rfl rfl (hmade.append_idle Account.Idle.nil)
    exact hstep.orderly h.orderly

theorem advances_next (hlawful : happening.Lawful) :
    Advances (FitFor (happening.isStandard process.standard)) process.bridge
      (process.next happening).bridge := by
  cases happening with
  | setEnvironment environment => exact ⟨Or.inl rfl, .refl _⟩
  | install settings => exact ⟨Settings.Cell.settles_install hlawful _, .refl _⟩
  | readSettings => exact .of_same (Or.inr rfl) rfl
  | act action => exact action.advances h.orderly h.regulated
  | @copyFrom H R _ host object =>
    -- the other host has the settings of this process, and leaves them behind as it has read them
    have hcopying := Marshal.copying_toBuffer process.bridge.regions object
      ⟨host, process.bridge.stats, process.bridge.settings⟩
    let make := Call.convertWith host (Marshal.toBuffer process.bridge.regions object)
    exact show Advances _ process.bridge (Call.keepBuffer make process.bridge).result.2 from
      .of_keepBuffer hcopying.read rfl
        fun buffer hbuffer _ => hcopying.two_pow h.regulated.valid hbuffer
  | meanwhile other => exact ⟨Or.inl rfl, .refl _⟩

/-- Whatever happens, what holds throughout a process goes on to hold. -/
theorem next (hlawful : happening.Lawful) : (process.next happening).Sane := by
  have horderly := h.orderly_next happening
  obtain ⟨hsettings, hbuffers⟩ := h.advances_next hlawful
  refine ⟨horderly, ⟨hsettings.valid h.regulated.valid, ?_⟩, ?_⟩
  -- a buffer that is noted was noted before and may have grown, or it is new
  · intro handle hhandle buffer hbuffer
    rcases hbuffers.live handle buffer hbuffer with ⟨earlier, hlive, hdoubles⟩ | ⟨hnew, hfit⟩
    · rcases mem_standard_next hhandle with hnoted | ⟨-, hnone, -⟩
      · exact hdoubles.two_pow (h.regulated.two_pow handle hnoted earlier hlive)
      · rw [hlive] at hnone
        cases hnone
    · rcases mem_standard_next hhandle with hnoted | ⟨hstandard, -⟩
      -- a handle is never used twice
      · exact absurd (h.lt_upcoming handle hnoted) (Nat.not_lt.mpr hnew)
      · exact hfit hstandard
  · intro handle hhandle
    rcases mem_standard_next hhandle with hnoted | ⟨-, -, entry, hentry, rfl⟩
    · exact (h.lt_upcoming handle hnoted).trans_le hbuffers.upcoming_le
    · exact horderly.buffers_valid.lt_upcoming entry hentry

end Sane

namespace Leads

variable {process later : Process}

theorem sane (h : process.Leads later) (hsane : process.Sane) : later.Sane := by
  induction h with
  | refl => exact hsane
  | step _ _ hlawful ih => exact ih.next hlawful

theorem standard_subset (h : process.Leads later) : process.standard ⊆ later.standard := by
  induction h with
  | refl => exact List.Subset.refl _
  | step _ _ _ ih => exact List.Subset.trans ih (List.subset_append_left _ _)

/-- Settings that are fixed stay as they are, whatever happens. -/
theorem installed_eq (h : process.Leads later) (hsane : process.Sane) {settings : Settings}
    (hfixed : process.bridge.settings.installed = some settings) :
    later.bridge.settings.installed = some settings := by
  induction h with
  | refl => exact hfixed
  | step before _ hlawful ih =>
    exact ((before.sane hsane).advances_next hlawful).settings.installed_eq ih

/-- Several things happen one after the other. -/
theorem run [Allocator] (h : process.Leads later) (happenings : List Happening)
    (hlawful : ∀ happening ∈ happenings, happening.Lawful) :
    process.Leads (happenings.foldl next later) := by
  induction happenings generalizing later with
  | nil => exact h
  | cons happening rest ih =>
    obtain ⟨hfirst, hrest⟩ := List.forall_mem_cons.mp hlawful
    exact ih (h.step happening hfirst) hrest

end Leads

/-- Settings are fixed once and valid, and so the capacities of standard buffers are powers of two,
in every process and whatever happens in it. -/
theorem settings_fixed_and_valid {environment : Environment} {process : Process}
    (h : (start environment).Leads process) :
    -- The settings are valid at all times.
    process.bridge.settings.current.1.validate = .ok () ∧
    -- They are fixed by whoever installs or reads them first, be it by starting the library.
    (∀ [Allocator] (settings : Settings),
      (process.next (.install settings)).bridge.settings.installed =
        some (process.bridge.settings.installed.getD settings)) ∧
    (∀ [Allocator],
      (process.next .readSettings).bridge.settings.installed =
        some process.bridge.settings.current.1 ∧
      (process.next (.act .startUp)).bridge.settings.installed =
        some process.bridge.settings.current.1) ∧
    -- From then on they stay as they are.
    (∀ settings, process.bridge.settings.installed = some settings → ∀ later, process.Leads later →
      later.bridge.settings.current.1 = settings) ∧
    -- Starting reports what it finds in the environment, whether or not the settings are fixed
    -- already.
    ((Call.startUp process.bridge).result.1 = Call.refusedCode ↔
      ∃ text capacity,
        process.bridge.settings.environment.value? "PYRT_DEFAULT_CAPACITY" = some text ∧
        Numeral.word? text.toList = some capacity ∧ ¬∃ exponent, capacity = 2 ^ exponent) ∧
    -- A buffer that is made with the default capacity, or as a copy of such a buffer, is standard,
    (∀ [Allocator] (happening : Happening), happening.isStandard process.standard = true →
      ∀ handle buffer, process.bridge.buffers.get? handle = none →
        (process.next happening).bridge.buffers.get? handle = some buffer →
        handle ∈ (process.next happening).standard) ∧
    -- and a standard buffer has a power of two for its capacity from then on.
    (∀ handle ∈ process.standard, ∀ later, process.Leads later → ∀ buffer,
      later.bridge.buffers.get? handle = some buffer →
        ∃ exponent, buffer.capacity = 2 ^ exponent) := by
  have hsane := h.sane (sane_start environment)
  refine ⟨hsane.regulated.valid.current, ?_, ?_, ?_, Call.startUp_eq_refusedCode_iff _, ?_, ?_⟩
  · exact fun settings => process.bridge.settings.installed_install settings
  · intro _
    have hcurrent := process.bridge.settings.installed_current
    obtain ⟨logging, hstarted⟩ := Call.result_startUp process.bridge
    have hsettings : (Call.startUp process.bridge).result.2.settings =
        process.bridge.settings.current.2 := by rw [hstarted]
    exact ⟨hcurrent, (congrArg Settings.Cell.installed hsettings).trans hcurrent⟩
  · intro settings hfixed later hlater
    exact Settings.Cell.current_of_installed (hlater.installed_eq hsane hfixed)
  · exact fun happening hstandard handle buffer hnew hlive =>
      mem_standard_of_new hstandard hnew hlive
  · intro handle hhandle later hlater buffer hbuffer
    exact (hlater.sane hsane).regulated.two_pow handle (hlater.standard_subset hhandle)
      buffer hbuffer

/-- The environment asks for a capacity of six, and later for sixteen. The first is replaced by
four, which is then kept. A buffer is made and a copy of it grows. -/
def patched [Allocator] : Process :=
  let happenings : List Happening :=
    [.act .startUp, .setEnvironment [("PYRT_DEFAULT_CAPACITY", "16")], .act (.newBuffer .int16),
      .act (.copyBuffer 0), .act (.editBuffer 1 (.extend [1, 0, 2, 0, 3, 0, 4, 0, 5, 0]) trivial)]
  happenings.foldl next (start [("PYRT_DEFAULT_CAPACITY", "6")])

/-- Starting is refused for the first environment and not for the second, though its settings are
not those that are kept. -/
theorem settings_fixed_and_valid_of_patched :
    let _ : Allocator := .bounded 1024
    let first := start [("PYRT_DEFAULT_CAPACITY", "6")]
    first.Leads patched ∧
      (Call.startUp first.bridge).result.1 = Call.refusedCode ∧
      (Call.startUp patched.bridge).result.1 = 0 ∧
      patched.bridge.settings.installed = some { defaultCapacity := 4 } ∧
      patched.standard = [0, 1] ∧ (patched.bridge.buffers.get? 1).map (·.capacity) = some 8 ∧
      ∀ handle ∈ [0, 1], ∀ later, patched.Leads later → later.bridge.settings.current.1 = {} ∧
        ∀ buffer, later.bridge.buffers.get? handle = some buffer →
          ∃ exponent, buffer.capacity = 2 ^ exponent := by
  intro _ first
  have hleads : first.Leads patched := by
    unfold patched
    exact Leads.refl.run _ (by simp [Happening.Lawful])
  have hinstalled : patched.bridge.settings.installed = some { defaultCapacity := 4 } := by
    decide +kernel
  have hstandard : patched.standard = [0, 1] := by decide +kernel
  obtain ⟨-, -, -, hfixed, -, -, hpowers⟩ := settings_fixed_and_valid hleads
  refine ⟨hleads, by decide +kernel, by decide +kernel, hinstalled, hstandard,
    by decide +kernel, ?_⟩
  intro handle hhandle later hlater
  exact ⟨hfixed _ hinstalled later hlater, hpowers handle (hstandard ▸ hhandle) later hlater⟩

end Process

end HostBridge
