import Autosampler.Proofs.Starting
import Mathlib.Tactic.Ring

/-!
# Waits between attempts

The wait after an attempt is a product that is cut off three times: the power of two at a 32-bit
word, the product at the longest span, and the result at the cap.  Only the last cut shows, for a cap
is a span itself.  The machine keeps a span in two words and carries from one to the other; this
comes to the same.

* `Backoff.doubling_eq`, `Backoff.delay_nanos` — the power and the wait in exact nanoseconds;
* `Span.Words`, `Span.Words.span` — a span in two words, and what it is;
* `Span.Words.times?`, `Span.Words.scale`, `Span.Words.shorter` — what the machine does with them;
* `Span.Words.span_scale`, `Span.Words.span_shorter` — it is what is done with spans;
* `retry_of_resolve`, `delay_of_millis` — the waits of settings that are started;
* `waits_saturate` — all waits.
-/

namespace Autosampler

/-! ### Exact nanoseconds -/

namespace Backoff

variable {b : Backoff} {attempt later : Nat}

theorem doubling_eq (attempt : Nat) : doubling attempt = min (2 ^ attempt) (2 ^ 32 - 1) := by
  unfold doubling
  by_cases h : attempt < 32
  · have hpow : 2 ^ attempt ≤ 2 ^ 31 := Nat.pow_le_pow_right (by omega) (by omega)
    rw [if_pos h]
    show 2 ^ attempt = _
    omega
  · have hpow : 2 ^ 32 ≤ 2 ^ attempt := Nat.pow_le_pow_right (by omega) (by omega)
    rw [if_neg h]
    show 2 ^ 32 - 1 = _
    omega

theorem doubling_mono (h : attempt ≤ later) : doubling attempt ≤ doubling later := by
  have hpow : 2 ^ attempt ≤ 2 ^ later := Nat.pow_le_pow_right (by omega) h
  rw [doubling_eq, doubling_eq]
  omega

theorem doubling_lt (attempt : Nat) : doubling attempt < 2 ^ 32 := by
  rw [doubling_eq]
  omega

/-- A product that is cut off at the longest span would be cut off at the cap in any case. -/
theorem delay_nanos (hcap : b.cap.nanos ≤ Span.bound) (attempt : Nat) :
    (b.delay attempt).nanos = min (b.base.nanos * doubling attempt) b.cap.nanos := by
  show min (min (b.base.nanos * doubling attempt) Span.bound) b.cap.nanos = _
  omega

theorem delay_le_cap (attempt : Nat) : (b.delay attempt).nanos ≤ b.cap.nanos :=
  Nat.min_le_right _ _

theorem delay_mono (hcap : b.cap.nanos ≤ Span.bound) (h : attempt ≤ later) :
    (b.delay attempt).nanos ≤ (b.delay later).nanos := by
  have hproduct : b.base.nanos * doubling attempt ≤ b.base.nanos * doubling later :=
    Nat.mul_le_mul_left _ (doubling_mono h)
  rw [delay_nanos hcap, delay_nanos hcap]
  omega

end Backoff

/-! ### Spans in machine words -/

/-- The product of two words, unless it is too long for a word. -/
def checkedMul (a b : UInt64) : Option UInt64 :=
  if a.toNat * b.toNat < 2 ^ 64 then some (a * b) else none

/-- The sum of two words, unless it is too long for a word. -/
def checkedAdd (a b : UInt64) : Option UInt64 :=
  if a.toNat + b.toNat < 2 ^ 64 then some (a + b) else none

/-- A span in two words: the whole seconds, and the nanoseconds beyond them. -/
structure Span.Words where
  seconds : UInt64
  beyond : UInt32
  beyond_lt : beyond.toNat < Span.perSecond

namespace Span.Words

variable (w v : Words) (k : UInt32)

/-- The span that is kept in the words. -/
def span : Span := ⟨w.seconds.toNat * perSecond + w.beyond.toNat⟩

/-- The longest span. -/
def longest : Words := ⟨18446744073709551615, 999999999, by decide⟩

/-- The nanoseconds beyond the seconds, taken `k` times.  No word is too short for them. -/
def product : UInt64 := w.beyond.toUInt64 * k.toUInt64

theorem product_toNat : (w.product k).toNat = w.beyond.toNat * k.toNat := by
  have hbeyond := w.beyond_lt
  have hk := k.toNat_lt
  have hlt : w.beyond.toNat * k.toNat < 2 ^ 64 := by
    have hle : w.beyond.toNat * k.toNat ≤ 1000000000 * 2 ^ 32 :=
      Nat.mul_le_mul (Nat.le_of_lt hbeyond) (Nat.le_of_lt hk)
    omega
  simp only [product, UInt64.toNat_mul, UInt32.toNat_toUInt64]
  exact Nat.mod_eq_of_lt hlt

theorem rest_toNat :
    (w.product k % 1000000000).toUInt32.toNat = w.beyond.toNat * k.toNat % perSecond := by
  simp only [UInt64.toNat_toUInt32, UInt64.toNat_mod, product_toNat]
  show w.beyond.toNat * k.toNat % perSecond % 2 ^ 32 = _
  have hlt : w.beyond.toNat * k.toNat % perSecond < 1000000000 := Nat.mod_lt _ (by decide)
  omega

/-- The words taken `k` times, with a carry to the seconds, unless there are too many of them. -/
def times? : Option Words :=
  (checkedMul w.seconds k.toUInt64).bind fun seconds =>
    (checkedAdd seconds (w.product k / 1000000000)).map fun seconds =>
      ⟨seconds, (w.product k % 1000000000).toUInt32,
        by rw [rest_toNat]; exact Nat.mod_lt _ (by decide)⟩

/-- The words taken `k` times, or else the longest span. -/
def scale : Words := (w.times? k).getD longest

/-- The shorter of two spans: the seconds count first. -/
def shorter : Words :=
  if v.seconds < w.seconds ∨ v.seconds = w.seconds ∧ v.beyond < w.beyond then v else w

variable {w v k}

theorem span_le : w.span.nanos ≤ bound := by
  have hseconds : w.seconds.toNat ≤ 2 ^ 64 - 1 := Nat.le_sub_one_of_lt w.seconds.toNat_lt
  have hbeyond : w.beyond.toNat ≤ 999999999 := Nat.le_of_lt_succ w.beyond_lt
  exact Nat.add_le_add (Nat.mul_le_mul_right _ hseconds) hbeyond

/-- The nanoseconds of the product: what is carried goes to the seconds. -/
theorem scaled_nanos (w : Words) (n : Nat) :
    w.span.nanos * n = (w.seconds.toNat * n + w.beyond.toNat * n / perSecond) * perSecond
      + w.beyond.toNat * n % perSecond := by
  have hcarry := Nat.div_add_mod (w.beyond.toNat * n) perSecond
  calc w.span.nanos * n
      = (w.seconds.toNat * perSecond + w.beyond.toNat) * n := rfl
    _ = w.seconds.toNat * n * perSecond + w.beyond.toNat * n := by ring
    _ = w.seconds.toNat * n * perSecond + (perSecond * (w.beyond.toNat * n / perSecond)
          + w.beyond.toNat * n % perSecond) := by rw [hcarry]
    _ = _ := by ring

theorem bound_eq : bound = 18446744073709551615 * perSecond + 999999999 := by
  unfold bound perSecond
  decide

theorem span_longest : longest.span = Span.longest :=
  congrArg Span.mk bound_eq.symm

/-- Seconds that do not fit a word make a span that is too long. -/
theorem saturated_of_le {seconds rest : Nat} (h : 2 ^ 64 ≤ seconds) :
    saturated (seconds * perSecond + rest) = Span.longest := by
  have hle : bound ≤ seconds * perSecond + rest := by
    have hbound := bound_eq
    simp only [perSecond] at hbound ⊢
    omega
  rw [saturated, Nat.min_eq_right hle, Span.longest]

/-- What the machine does for a multiple of a span is right, cut off at the longest span. -/
theorem span_scale : (w.scale k).span = w.span.scale k.toNat := by
  have hcarry : (w.product k / 1000000000).toNat = w.beyond.toNat * k.toNat / perSecond := by
    rw [UInt64.toNat_div, product_toNat]
    rfl
  rw [Span.scale, scaled_nanos, scale, times?]
  by_cases hmul : w.seconds.toNat * k.toUInt64.toNat < 2 ^ 64
  · have hseconds : (w.seconds * k.toUInt64).toNat = w.seconds.toNat * k.toNat := by
      rw [UInt64.toNat_mul, Nat.mod_eq_of_lt hmul, UInt32.toNat_toUInt64]
    rw [checkedMul, if_pos hmul, Option.bind_some]
    by_cases hadd : (w.seconds * k.toUInt64).toNat + (w.product k / 1000000000).toNat < 2 ^ 64
    · rw [checkedAdd, if_pos hadd, Option.map_some, Option.getD_some]
      have hall : (w.seconds * k.toUInt64 + w.product k / 1000000000).toNat
          = w.seconds.toNat * k.toNat + w.beyond.toNat * k.toNat / perSecond := by
        rw [UInt64.toNat_add, Nat.mod_eq_of_lt hadd, hseconds, hcarry]
      have hle := span_le (w := ⟨w.seconds * k.toUInt64 + w.product k / 1000000000,
        (w.product k % 1000000000).toUInt32, by rw [rest_toNat]; exact Nat.mod_lt _ (by decide)⟩)
      simp only [span, hall, rest_toNat] at hle ⊢
      rw [saturated, Nat.min_eq_left hle]
    · rw [checkedAdd, if_neg hadd, Option.map_none, Option.getD_none, span_longest]
      rw [hseconds, hcarry] at hadd
      exact (saturated_of_le (Nat.le_of_not_lt hadd)).symm
  · rw [checkedMul, if_neg hmul, Option.bind_none, Option.getD_none, span_longest]
    rw [UInt32.toNat_toUInt64] at hmul
    exact (saturated_of_le ((Nat.le_of_not_lt hmul).trans (Nat.le_add_right _ _))).symm

/-- Seconds first is the order of spans. -/
theorem span_shorter : (w.shorter v).span = w.span.shorter v.span := by
  have hw := w.beyond_lt
  have hv := v.beyond_lt
  have hlt : (v.seconds < w.seconds ∨ v.seconds = w.seconds ∧ v.beyond < w.beyond) ↔
      v.span.nanos < w.span.nanos := by
    simp only [UInt64.lt_iff_toNat_lt, UInt32.lt_iff_toNat_lt, ← UInt64.toNat_inj, span, perSecond]
      at hw hv ⊢
    omega
  unfold shorter Span.shorter
  split
  · rename_i h
    rw [Nat.min_eq_right (Nat.le_of_lt (hlt.mp h))]
  · rename_i h
    rw [Nat.min_eq_left (Nat.le_of_not_lt (mt hlt.mpr h))]

end Span.Words

/-! ### The waits of settings -/

theorem retry_of_resolve {line : CommandLine} {config : Config} {registry : Registry}
    {startup : Startup} (h : resolve line config registry = .ok startup) :
    startup.settings.retry
      = ⟨max 1 config.robot.attempts, Span.ofMillis config.robot.retryDelay, retryCap⟩ := by
  obtain ⟨-, access, -, -, rfl⟩ := resolve_ok_iff.mp h
  rfl

theorem retryCap_nanos : retryCap.nanos = 5 * Span.perSecond := by
  have hbound := Span.Words.bound_eq
  show min (5000 * 1000000) Span.bound = _
  simp only [Span.perSecond] at hbound ⊢
  omega

/-- A millisecond is long enough to reach the cap before the power of two is cut off. -/
theorem delay_of_millis (attempts attempt : Nat) {delay : Nat} (hdelay : 0 < delay) :
    let b : Backoff := ⟨attempts, Span.ofMillis delay, retryCap⟩
    (b.delay attempt).nanos = min (b.base.nanos * 2 ^ attempt) (5 * Span.perSecond) := by
  intro b
  have hbound := Span.Words.bound_eq
  have hcap : b.cap.nanos = 5 * Span.perSecond := retryCap_nanos
  have hbase : 1000000 ≤ b.base.nanos := by
    show 1000000 ≤ min (delay * 1000000) Span.bound
    simp only [Span.perSecond] at hbound
    omega
  have hle : b.cap.nanos ≤ Span.bound := by
    rw [hcap, hbound]
    omega
  rw [Backoff.delay_nanos hle, Backoff.doubling_eq, hcap]
  by_cases hpow : 2 ^ attempt ≤ 2 ^ 32 - 1
  · rw [Nat.min_eq_left hpow]
  · have hword : 1000000 * (2 ^ 32 - 1) ≤ b.base.nanos * (2 ^ 32 - 1) := Nat.mul_le_mul_right _ hbase
    have hlong : b.base.nanos * (2 ^ 32 - 1) ≤ b.base.nanos * 2 ^ attempt :=
      Nat.mul_le_mul_left _ (Nat.le_of_not_le hpow)
    rw [Nat.min_eq_right (Nat.le_of_not_le hpow)]
    simp only [Span.perSecond]
    omega

/-- **Waits are cut off at the cap and nowhere else.**  The spans and the bound on the attempts are
kept in machine words.  After every attempt the wait is the product of the base and the power of two
within a 32-bit word, in exact nanoseconds, or the cap if that is shorter, also where the product is
longer than any span.  The machine's words come to this span.  So no wait is longer than the cap, and
later waits are not shorter.  For sound settings that are started the power itself counts: every
wait is the base doubled as often as there were attempts, up to five seconds. -/
theorem waits_saturate (base cap : Span.Words) (attempts : UInt32) :
    (let b : Backoff := ⟨attempts.toNat, base.span, cap.span⟩
      ∀ attempt,
        (b.delay attempt).nanos
            = min (base.span.nanos * min (2 ^ attempt) (2 ^ 32 - 1)) cap.span.nanos ∧
          b.delay attempt
            = ((base.scale (UInt32.ofNat (Backoff.doubling attempt))).shorter cap).span ∧
          (b.delay attempt).nanos ≤ cap.span.nanos ∧
          ∀ later, attempt ≤ later → (b.delay attempt).nanos ≤ (b.delay later).nanos) ∧
      ∀ (line : CommandLine) (config : Config) (registry : Registry) (startup : Startup),
        config.check = .ok () → resolve line config registry = .ok startup →
        let b := startup.settings.retry
        b.base = Span.ofMillis config.robot.retryDelay ∧
          ∀ attempt, (b.delay attempt).nanos
            = min (b.base.nanos * 2 ^ attempt) (5 * Span.perSecond) := by
  refine ⟨fun attempt => ⟨?_, ?_, Backoff.delay_le_cap attempt, fun later =>
    Backoff.delay_mono Span.Words.span_le⟩, fun line config registry startup hc hr => ?_⟩
  · rw [Backoff.delay_nanos Span.Words.span_le, Backoff.doubling_eq]
  · rw [Span.Words.span_shorter, Span.Words.span_scale,
      UInt32.toNat_ofNat_of_lt' (Backoff.doubling_lt attempt)]
    rfl
  · rw [retry_of_resolve hr]
    have hrule : (decide (config.robot.retryDelay = 0), ConfigFault.noRetryDelay) ∈ config.rules := by
      simp [Config.rules]
    have hdelay := of_decide_eq_false (Config.unbroken_of_check hc hrule)
    exact ⟨rfl, fun attempt => delay_of_millis _ attempt (Nat.pos_of_ne_zero hdelay)⟩

/-- What the settings come to that hold where nothing is said. -/
def usualStartup : Startup :=
  ⟨"dummy", ⟨.none, Span.ofMillis 2000, ⟨5, Span.ofMillis 200, retryCap⟩⟩, 12⟩

/-- A product that is longer than any span is cut off at the cap of one second, and so is a wait of
the usual settings at five seconds, however late the attempt. -/
theorem waits_saturate_late :
    let b : Backoff := ⟨5, Span.Words.longest.span, (⟨1, 0, by decide⟩ : Span.Words).span⟩
    (b.delay 40).nanos = 1000000000 ∧ ({} : Config).check = .ok () ∧
      resolve {} {} Registry.builtin = .ok usualStartup ∧
      (usualStartup.settings.retry.delay 3).nanos = 1600000000 ∧
      (usualStartup.settings.retry.delay 1000).nanos = 5000000000 := by
  intro b
  have hfault : ({} : Config).fault? = none := by decide +kernel
  have hc : ({} : Config).check = .ok () := by rw [Config.check, hfault]
  have hr : resolve {} {} Registry.builtin = .ok usualStartup := by rfl
  obtain ⟨hwaits, hsettings⟩ := waits_saturate Span.Words.longest ⟨1, 0, by decide⟩ 5
  obtain ⟨-, hdelays⟩ := hsettings {} {} Registry.builtin usualStartup hc hr
  exact ⟨(hwaits 40).1.trans (by decide +kernel), hc, hr, (hdelays 3).trans (by decide +kernel),
    (hdelays 1000).trans (by decide +kernel)⟩

end Autosampler
