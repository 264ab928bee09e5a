import HostBridge.Lifecycle
import HostBridge.Proofs.Layout.Basic
import HostBridge.Proofs.Session.Request

/-!
# Settings

Settings are valid if their default capacity is a power of two. An environment can ask for others,
but what is read is always valid, since a capacity that is not is replaced before it is used.
Starting the library replaces such settings too, and reports that it did.

## Main definitions

* `Settings.Cell.Valid`: the settings of a process are valid, if they are fixed;
* `Settings.Cell.Settles`: what a step may do to the settings of a process.

## Main results

* `Settings.Cell.Valid.current`: what is read is valid;
* `Settings.Cell.Read.settles`, `Settings.Cell.settles_install`: reading and installing settings;
* `Call.result_startUp`: what starting returns and leaves behind;
* `Call.startUp_eq_refusedCode_iff`: when starting is refused.
-/

namespace HostBridge

/-! ## Valid settings -/

theorem isPowerOfTwo_iff {n : Nat} : isPowerOfTwo n = true ↔ ∃ exponent, n = 2 ^ exponent := by
  simp only [isPowerOfTwo, Bool.and_eq_true, bne_iff_ne, beq_iff_eq, twoPow_eq]
  constructor
  · rintro ⟨-, hlog⟩
    exact ⟨n.log2, hlog.symm⟩
  · rintro ⟨exponent, rfl⟩
    exact ⟨(Nat.two_pow_pos exponent).ne', by rw [Nat.log2_two_pow]⟩

namespace Settings

theorem validate_eq_ok_iff {settings : Settings} :
    settings.validate = .ok () ↔ isPowerOfTwo settings.defaultCapacity = true := by
  unfold validate
  split
  · rename_i hpower
    exact iff_of_true rfl hpower
  · rename_i hpower
    exact iff_of_false (fun hok => by cases hok) hpower

theorem validate_sanitized (settings : Settings) : settings.sanitized.validate = .ok () := by
  rw [validate_eq_ok_iff, sanitized]
  split
  · assumption
  · exact isPowerOfTwo_iff.mpr ⟨2, rfl⟩

namespace Cell

variable {before after cell : Cell} {settings : Settings}

theorem installed_current (cell : Cell) : cell.current.2.installed = some cell.current.1 := by
  unfold current
  split
  · assumption
  · rfl

theorem current_of_installed (h : cell.installed = some settings) : cell.current.1 = settings := by
  simp only [current, h]

theorem current_of_not_installed (h : cell.installed = none) :
    cell.current.1 = (ofEnvironment cell.environment).sanitized := by
  simp only [current, h]

/-- The settings are valid, if they are fixed. -/
def Valid (cell : Cell) : Prop :=
  ∀ settings, cell.installed = some settings → settings.validate = .ok ()

/-- What is read is valid, since an environment can only fix settings that were made so. -/
theorem Valid.current (h : cell.Valid) : cell.current.1.validate = .ok () := by
  cases hinstalled : cell.installed with
  | some settings =>
    rw [current_of_installed hinstalled]
    exact h settings hinstalled
  | none =>
    rw [current_of_not_installed hinstalled]
    exact validate_sanitized _

theorem Valid.two_pow (h : cell.Valid) :
    ∃ exponent, cell.current.1.defaultCapacity = 2 ^ exponent :=
  isPowerOfTwo_iff.mp (validate_eq_ok_iff.mp h.current)

theorem Valid.pos (h : cell.Valid) : 0 < cell.current.1.defaultCapacity := by
  obtain ⟨exponent, hexponent⟩ := h.two_pow
  rw [hexponent]
  exact Nat.two_pow_pos exponent

/-- Settings that are fixed stay as they are, and those that are fixed now are valid. -/
def Settles (before after : Cell) : Prop :=
  after.installed = before.installed ∨
    before.installed = none ∧
      ∃ settings, settings.validate = .ok () ∧ after.installed = some settings

theorem Settles.valid (h : before.Settles after) (hvalid : before.Valid) : after.Valid := by
  intro settings hinstalled
  rcases h with hsame | ⟨-, chosen, hchosen, hafter⟩
  · exact hvalid settings (hsame ▸ hinstalled)
  · rw [hafter] at hinstalled
    rwa [← Option.some.inj hinstalled]

theorem Settles.installed_eq (h : before.Settles after)
    (hfixed : before.installed = some settings) :
    after.installed = some settings := by
  rcases h with hsame | ⟨hnone, -⟩
  · rw [hsame, hfixed]
  · rw [hfixed] at hnone
    cases hnone

theorem Read.settles (h : before.Read after) : before.Settles after := by
  rcases h with rfl | rfl
  · exact Or.inl rfl
  · cases hinstalled : before.installed with
    | some settings =>
      refine Or.inl ?_
      rw [installed_current, current_of_installed hinstalled, hinstalled]
    | none =>
      refine Or.inr ⟨hinstalled, before.current.1, ?_, installed_current before⟩
      rw [current_of_not_installed hinstalled]
      exact validate_sanitized _

theorem installed_install (cell : Cell) (settings : Settings) :
    (cell.install settings).2.installed = some (cell.installed.getD settings) := by
  unfold install
  cases hinstalled : cell.installed with
  | none => rfl
  | some kept => exact hinstalled

theorem settles_install (h : settings.validate = .ok ()) (cell : Cell) :
    cell.Settles (cell.install settings).2 := by
  unfold install
  split
  · exact Or.inl rfl
  · rename_i hinstalled
    exact Or.inr ⟨hinstalled, settings, h, rfl⟩

end Cell

end Settings

/-- What starting returns tells of the environment alone. It leaves the settings as if they had been
read, whether they were fixed before or are now. -/
theorem Call.result_startUp (bridge : Bridge) :
    ∃ logging, (startUp bridge).result =
      (if isPowerOfTwo (Settings.ofEnvironment bridge.settings.environment).defaultCapacity then 0
        else refusedCode,
      { bridge with
        stats := {}
        settings := bridge.settings.current.2
        logging := some logging }) := by
  obtain ⟨⟨host, stats, ⟨environment, installed⟩⟩, blocks, buffers, arrays, lastError, logging⟩ :=
    bridge
  have hget : ∀ state : Bridge, (get : Call Bridge) state = ⟨(state, state), []⟩ := fun _ => rfl
  simp only [startUp, result_bind, hget]
  -- the code depends on what the environment asks for, the settings on whether they are fixed
  -- already
  by_cases hpower : isPowerOfTwo (Settings.ofEnvironment environment).defaultCapacity = true
  · have hvalid : (Settings.ofEnvironment environment).validate = .ok () := if_pos hpower
    rw [if_pos hpower]
    simp only [hvalid]
    cases installed <;> exact ⟨_, rfl⟩
  · have hvalid : (Settings.ofEnvironment environment).validate = .error _ := if_neg hpower
    rw [if_neg hpower]
    simp only [hvalid]
    cases installed <;> exact ⟨_, rfl⟩

/-- Starting is refused exactly when the environment names a default capacity that is no power of
two. A value that cannot be read names none. -/
theorem Call.startUp_eq_refusedCode_iff (bridge : Bridge) :
    (startUp bridge).result.1 = refusedCode ↔
      ∃ text capacity, bridge.settings.environment.value? "PYRT_DEFAULT_CAPACITY" = some text ∧
        Numeral.word? text.toList = some capacity ∧ ¬∃ exponent, capacity = 2 ^ exponent := by
  obtain ⟨logging, hresult⟩ := result_startUp bridge
  have hcode : (startUp bridge).result.1 = refusedCode ↔ ¬∃ exponent,
      (Settings.ofEnvironment bridge.settings.environment).defaultCapacity = 2 ^ exponent := by
    rw [hresult, ← isPowerOfTwo_iff]
    split
    · exact iff_of_false (show (0 : Int) ≠ refusedCode by decide) (not_not.mpr ‹_›)
    · exact iff_of_true rfl ‹_›
  rw [hcode, Settings.ofEnvironment]
  -- without a value that can be read the default capacity is four
  cases hread : (bridge.settings.environment.value? "PYRT_DEFAULT_CAPACITY").bind
    fun text => Numeral.word? text.toList with
  | none =>
    refine iff_of_false (not_not.mpr ⟨2, rfl⟩) ?_
    rintro ⟨text, capacity, htext, hcapacity, -⟩
    rw [htext, Option.bind_some, hcapacity] at hread
    cases hread
  | some found =>
    obtain ⟨text, htext, hfound⟩ := Option.bind_eq_some_iff.mp hread
    constructor
    · exact fun hpower => ⟨text, found, htext, hfound, hpower⟩
    · rintro ⟨other, capacity, hother, hcapacity, hpower⟩
      obtain rfl : text = other := Option.some.inj (htext.symm.trans hother)
      rwa [← Option.some.inj (hfound.symm.trans hcapacity)] at hpower

end HostBridge
