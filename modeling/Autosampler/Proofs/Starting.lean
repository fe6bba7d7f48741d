import Autosampler.Proofs.Backends
import Autosampler.Startup

/-!
# Sound settings can be started

Settings are checked when they are read, and merged with the command line after that.  What the
settings say has been checked then, so only the words of the command line and the name of the
backend can stand in the way; and what passes the merge is all that the driver asks for.

* `Registry.find?_builtin`, `Registry.contains_builtin` — the backends that are always there;
* `resolve_ok_iff`, `resolve_error_iff` — what the merge comes to;
* `Config.slots_pos`, `Config.timeout_pos`, `RobotConfig.colon_mem_address` — what settings have;
* `chosenDriver`, `build_of_resolve` — the driver that is built from what passes the merge;
* `Objection` — what can be wrong with a command line;
* `sound_settings_start` — settings and command lines that can be started.
-/

namespace Autosampler

/-! ### The backends that are always there -/

namespace Registry

theorem find?_builtin (name : String) :
    builtin.find? name
      = if Text.plainName name = "ur" then some Dashboard.factory
        else if Text.plainName name = "dummy" then some fun _ => .ok .dummy
        else none := by
  have hur : Text.plainName "ur" = "ur" := rfl
  have hdummy : Text.plainName "dummy" = "dummy" := rfl
  rw [builtin, addBuiltin, find?_register, find?_register, hur, hdummy]
  simp only [eq_comm]
  rfl

theorem contains_plainName (r : Registry) (name : String) :
    r.contains (Text.plainName name) = r.contains name := by
  rw [contains, contains, find?, find?, Text.plainName_plainName]

theorem contains_builtin {name : String} :
    builtin.contains name = true
      ↔ Text.plainName name = "ur" ∨ Text.plainName name = "dummy" := by
  rw [contains, find?_builtin]
  split
  · simp [*]
  · split <;> simp [*]

end Registry

/-! ### The merge -/

section Resolve

variable {line : CommandLine} {config : Config} {registry : Registry} {startup : Startup}
  {fault : StartFault}

/-- The plain name of the backend that is asked for. -/
def chosenBackend (line : CommandLine) (config : Config) : String :=
  Text.plainName (line.backend.getD config.robot.backend)

theorem resolveAccess_ok_iff {backend : String} {access : Access} :
    resolveAccess line config backend = .ok access
      ↔ backend = "dummy" ∧ access = .none
        ∨ backend ≠ "dummy" ∧ ':' ∈ (line.robotAddress.getD config.robot.address).toList
          ∧ access = .tcp (line.robotAddress.getD config.robot.address) := by
  unfold resolveAccess
  by_cases hbackend : backend = "dummy"
  · simp [hbackend, eq_comm]
  · by_cases hcolon : ':' ∈ (line.robotAddress.getD config.robot.address).toList
    · simp [hbackend, hcolon, eq_comm]
    · simp [hbackend, hcolon]

theorem resolveAccess_error_iff {backend : String} :
    resolveAccess line config backend = .error fault
      ↔ backend ≠ "dummy" ∧ ':' ∉ (line.robotAddress.getD config.robot.address).toList
          ∧ fault = .robotAddress (line.robotAddress.getD config.robot.address) := by
  unfold resolveAccess
  by_cases hbackend : backend = "dummy"
  · simp [hbackend]
  · by_cases hcolon : ':' ∈ (line.robotAddress.getD config.robot.address).toList
    · simp [hbackend, hcolon]
    · simp [hbackend, hcolon, eq_comm]

/-- What is started, if the robot is reached so. -/
def startupWith (line : CommandLine) (config : Config) (access : Access) : Startup :=
  ⟨chosenBackend line config,
    ⟨access, Span.ofMillis config.robot.timeout,
      ⟨max 1 config.robot.attempts, Span.ofMillis config.robot.retryDelay, retryCap⟩⟩,
    line.slots.getD config.slots⟩

theorem resolve_ok_iff :
    resolve line config registry = .ok startup
      ↔ registry.contains (chosenBackend line config) = true ∧
        ∃ access, resolveAccess line config (chosenBackend line config) = .ok access ∧
          line.slots.getD config.slots ≠ 0 ∧ startup = startupWith line config access := by
  unfold resolve
  rw [← chosenBackend]
  dsimp only
  cases hknown : registry.contains (chosenBackend line config) with
  | false => simp
  | true =>
    cases haccess : resolveAccess line config (chosenBackend line config) with
    | error fault => simp
    | ok access =>
      by_cases hslots : line.slots.getD config.slots = 0
      · simp [hslots]
      · simp [hslots, startupWith, eq_comm]

theorem resolve_error_iff :
    resolve line config registry = .error fault
      ↔ registry.contains (chosenBackend line config) = false ∧
          fault = .unknownBackend (chosenBackend line config) registry.names
        ∨ registry.contains (chosenBackend line config) = true ∧
          (resolveAccess line config (chosenBackend line config) = .error fault
            ∨ (∃ access, resolveAccess line config (chosenBackend line config) = .ok access) ∧
              line.slots.getD config.slots = 0 ∧ fault = .noSlots) := by
  unfold resolve
  rw [← chosenBackend]
  dsimp only
  cases hknown : registry.contains (chosenBackend line config) with
  | false => simp [eq_comm]
  | true =>
    cases haccess : resolveAccess line config (chosenBackend line config) with
    | error fault => simp
    | ok access =>
      by_cases hslots : line.slots.getD config.slots = 0
      · simp [hslots, eq_comm]
      · simp [hslots]

end Resolve

/-! ### Sound settings -/

theorem RobotConfig.colon_mem_address (r : RobotConfig) : ':' ∈ r.address.toList := by
  simp [address]

namespace Config

variable {config : Config}

theorem slots_pos (hc : config.check = .ok ()) : 0 < config.slots := by
  have hrule : (decide (config.slots = 0), ConfigFault.noSlots) ∈ config.rules := by simp [rules]
  exact Nat.pos_of_ne_zero (of_decide_eq_false (unbroken_of_check hc hrule))

theorem timeout_pos (hc : config.check = .ok ()) : 0 < config.robot.timeout := by
  have hrule : (decide (config.robot.timeout = 0), ConfigFault.noTimeout) ∈ config.rules := by
    simp [rules]
  exact Nat.pos_of_ne_zero (of_decide_eq_false (unbroken_of_check hc hrule))

end Config

theorem Span.ofMillis_mono {ms longer : Nat} (h : ms ≤ longer) :
    (ofMillis ms).nanos ≤ (ofMillis longer).nanos := by
  show min (ms * 1000000) bound ≤ min (longer * 1000000) bound
  omega

/-! ### What can be started -/

/-- The driver that is asked for.  The one of the robot knows the address, the command line's before
that of the settings, and the waits of the settings; the dummy needs nothing. -/
def chosenDriver (line : CommandLine) (config : Config) : Backend :=
  if chosenBackend line config = "ur" then
    .dashboard ⟨line.robotAddress.getD config.robot.address, Span.ofMillis config.robot.timeout,
      ⟨max 1 config.robot.attempts, Span.ofMillis config.robot.retryDelay, retryCap⟩⟩
  else .dummy

/-- What can be wrong with a command line, if the settings are sound. -/
inductive Objection (line : CommandLine) (backend : String) : StartFault → Prop
  | backend :
      Registry.builtin.contains backend = false →
      Objection line backend (.unknownBackend backend ["dummy", "ur"])
  | address {addr : String} :
      Registry.builtin.contains backend = true → backend ≠ "dummy" →
      line.robotAddress = some addr → ':' ∉ addr.toList →
      Objection line backend (.robotAddress addr)
  | slots :
      Registry.builtin.contains backend = true →
      (backend = "dummy" ∨ ∀ addr, line.robotAddress = some addr → ':' ∈ addr.toList) →
      line.slots = some 0 →
      Objection line backend .noSlots

section Sound

variable {line : CommandLine} {config : Config} {startup : Startup} {fault : StartFault}

theorem plainName_chosenBackend :
    Text.plainName (chosenBackend line config) = chosenBackend line config :=
  Text.plainName_plainName _

/-- The settings have a colon in their address, so only one from the command line may lack it. -/
theorem colon_mem_iff :
    ':' ∈ (line.robotAddress.getD config.robot.address).toList
      ↔ ∀ addr, line.robotAddress = some addr → ':' ∈ addr.toList := by
  cases hword : line.robotAddress with
  | none => simp [config.robot.colon_mem_address]
  | some addr => simp

theorem slots_eq_zero_iff (hc : config.check = .ok ()) :
    line.slots.getD config.slots = 0 ↔ line.slots = some 0 := by
  cases hslots : line.slots with
  | none => simp [Nat.ne_of_gt (Config.slots_pos hc)]
  | some slots => simp

theorem exists_access_iff {backend : String} :
    (∃ access, resolveAccess line config backend = .ok access)
      ↔ backend = "dummy" ∨ ∀ addr, line.robotAddress = some addr → ':' ∈ addr.toList := by
  simp only [resolveAccess_ok_iff, colon_mem_iff]
  by_cases hbackend : backend = "dummy"
  · simp [hbackend]
  · simp [hbackend]

/-- What passes the merge is all that the driver asks for. -/
theorem build_of_resolve (h : resolve line config Registry.builtin = .ok startup) :
    startup.backend = chosenBackend line config ∧
      (startup.backend = "ur" ∨ startup.backend = "dummy") ∧
      Registry.builtin.build startup.backend startup.settings = .ok (chosenDriver line config) := by
  obtain ⟨hknown, access, haccess, -, rfl⟩ := resolve_ok_iff.mp h
  rw [Registry.contains_builtin, plainName_chosenBackend] at hknown
  refine ⟨rfl, hknown, ?_⟩
  show Registry.builtin.build (chosenBackend line config) _ = _
  rw [Registry.build, Registry.find?_builtin, plainName_chosenBackend, chosenDriver]
  rcases hknown with hur | hdummy
  · rcases resolveAccess_ok_iff.mp haccess with ⟨hdummy, -⟩ | ⟨-, -, rfl⟩
    · exact absurd (hur.symm.trans hdummy) (by decide)
    · rw [if_pos hur, if_pos hur]
      rfl
  · rw [hdummy]
    rfl

theorem resolve_error_iff_objection (hc : config.check = .ok ()) :
    resolve line config Registry.builtin = .error fault
      ↔ Objection line (chosenBackend line config) fault := by
  rw [resolve_error_iff, resolveAccess_error_iff, exists_access_iff, slots_eq_zero_iff hc,
    colon_mem_iff]
  constructor
  · rintro (⟨hknown, rfl⟩ | ⟨hknown, ⟨hbackend, hcolon, rfl⟩ | ⟨hreach, hslots, rfl⟩⟩)
    · exact .backend hknown
    · obtain ⟨addr, hcolon⟩ := not_forall.mp hcolon
      obtain ⟨hword, hcolon⟩ := Classical.not_imp.mp hcolon
      rw [hword, Option.getD_some]
      exact .address hknown hbackend hword hcolon
    · exact .slots hknown hreach hslots
  · intro h
    cases h with
    | backend hknown => exact .inl ⟨hknown, rfl⟩
    | address hknown hbackend hword hcolon =>
      refine .inr ⟨hknown, .inl ⟨hbackend, fun hall => hcolon (hall _ hword), ?_⟩⟩
      rw [hword, Option.getD_some]
    | slots hknown hreach hslots => exact .inr ⟨hknown, .inr ⟨hreach, hslots, rfl⟩⟩

end Sound

/-- **Sound settings can be started.**  Whatever the command line says, what passes the merge builds
the driver that is asked for, the robot's with the address, the timeout and the retries that were
merged, and the dummy else; it has a slot at least, waits a millisecond at least, and tries once at
least.  There is nothing to start exactly if the plain name of the backend is unknown, or a backend
other than the dummy is given an address without a colon on the command line, or the command line
asks for no slots.  So a command line that changes none of these starts every known backend. -/
theorem sound_settings_start {config : Config} (hc : config.check = .ok ()) (line : CommandLine) :
    (∀ startup, resolve line config Registry.builtin = .ok startup →
      (startup.backend = chosenBackend line config ∧
        (startup.backend = "ur" ∨ startup.backend = "dummy") ∧
        Registry.builtin.build startup.backend startup.settings
          = .ok (chosenDriver line config)) ∧
        1 ≤ startup.slots ∧ (Span.ofMillis 1).nanos ≤ startup.settings.timeout.nanos ∧
        1 ≤ startup.settings.retry.attempts) ∧
      (∀ fault, resolve line config Registry.builtin = .error fault
        ↔ Objection line (chosenBackend line config) fault) ∧
      (line.backend = none → line.robotAddress = none → line.slots = none →
        Registry.builtin.contains config.robot.backend = true →
        ∃ startup, resolve line config Registry.builtin = .ok startup) := by
  refine ⟨fun startup h => ⟨build_of_resolve h, ?_⟩, fun fault => resolve_error_iff_objection hc,
    fun hbackend hword hslots hknown => ?_⟩
  · obtain ⟨-, access, -, hslots, rfl⟩ := resolve_ok_iff.mp h
    exact ⟨Nat.pos_of_ne_zero hslots, Span.ofMillis_mono (Config.timeout_pos hc),
      Nat.le_max_left _ _⟩
  · cases hresolve : resolve line config Registry.builtin with
    | ok startup => exact ⟨startup, rfl⟩
    | error fault =>
      cases (resolve_error_iff_objection hc).mp hresolve with
      | backend hunknown =>
        rw [chosenBackend, hbackend, Option.getD_none, Registry.contains_plainName, hknown]
          at hunknown
        cases hunknown
      | address _ _ hsome _ =>
        rw [hword] at hsome
        cases hsome
      | slots _ _ hzero =>
        rw [hslots] at hzero
        cases hzero

/-- Sound settings for a robot. -/
def robotConfig : Config := { robot := { backend := "U-R", host := "robot" } }

/-- The dummy is asked for, with an address without a port. -/
def dummyLine : CommandLine := { backend := some "Dummy", robotAddress := some "robot.local" }

/-- The settings start the robot's backend with another number of slots, do not without a colon in
the address, and start the dummy even so. -/
theorem sound_settings_start_robot :
    robotConfig.check = .ok () ∧
      (∃ startup, resolve { slots := some 3 } robotConfig Registry.builtin = .ok startup ∧
        startup.slots = 3 ∧
        Registry.builtin.build startup.backend startup.settings
          = .ok (.dashboard ⟨robotConfig.robot.address, Span.ofMillis robotConfig.robot.timeout,
            ⟨max 1 robotConfig.robot.attempts, Span.ofMillis robotConfig.robot.retryDelay,
              retryCap⟩⟩)) ∧
      resolve { robotAddress := some "robot.local" } robotConfig Registry.builtin
        = .error (.robotAddress "robot.local") ∧
      (∃ startup, resolve dummyLine robotConfig Registry.builtin = .ok startup ∧
        Registry.builtin.build startup.backend startup.settings = .ok .dummy) ∧
      ∃ startup, resolve {} robotConfig Registry.builtin = .ok startup := by
  have hfault : robotConfig.fault? = none := by decide +kernel
  have hc : robotConfig.check = .ok () := by rw [Config.check, hfault]
  have hreach : resolveAccess { slots := some 3 } robotConfig "ur"
      = .ok (.tcp robotConfig.robot.address) :=
    resolveAccess_ok_iff.mpr (.inr ⟨by decide, RobotConfig.colon_mem_address _, rfl⟩)
  have hthree : resolve { slots := some 3 } robotConfig Registry.builtin
      = .ok (startupWith { slots := some 3 } robotConfig (.tcp robotConfig.robot.address)) :=
    resolve_ok_iff.mpr ⟨rfl, _, hreach, by decide, rfl⟩
  have hdummy : resolve dummyLine robotConfig Registry.builtin
      = .ok (startupWith dummyLine robotConfig .none) :=
    resolve_ok_iff.mpr ⟨rfl, _, resolveAccess_ok_iff.mpr (.inl ⟨rfl, rfl⟩), by decide, rfl⟩
  obtain ⟨hstart, -, -⟩ := sound_settings_start hc { slots := some 3 }
  obtain ⟨-, hrefused, -⟩ := sound_settings_start hc { robotAddress := some "robot.local" }
  obtain ⟨hstart', -, -⟩ := sound_settings_start hc dummyLine
  obtain ⟨-, -, hplain⟩ := sound_settings_start hc {}
  refine ⟨hc, ⟨_, hthree, rfl, (hstart _ hthree).1.2.2⟩, (hrefused _).mpr ?_,
    ⟨_, hdummy, (hstart' _ hdummy).1.2.2⟩, hplain rfl rfl rfl rfl⟩
  exact .address rfl (by decide) rfl (by decide)

end Autosampler
