import Autosampler.Proofs.Journal

/-!
# Attempts to reach the dashboard

* `Dashboard.before`, `Dashboard.tried` — attempts one after the other, with waits in between;
* `Dashboard.journalBefore`, `Dashboard.journalThrough` — what is done in them;
* `Dashboard.LastTry`, `Dashboard.exists_lastTry` — the attempt that is the last one made;
* `connect_makes_allowed_attempts` — the attempts and waits that are made to open a line.
-/

namespace Autosampler

namespace Dashboard

variable {π : Type} (d : Dashboard) (p : Peer π) (side : π)

/-- The other side before attempt number `k`, counted from zero, if there is such an attempt. -/
def before : Nat → π
  | 0 => side
  | k + 1 => p.pause (d.openLine p (before k)).1 (d.retry.delay k)

/-- What comes of attempt number `k`. -/
def tried (k : Nat) : π × Except String Unit := d.openLine p (d.before p side k)

/-- What is done before attempt number `k`: the earlier attempts, with a wait after each. -/
def journalBefore : Nat → List Happening
  | 0 => []
  | k + 1 => journalBefore k ++ (d.opening p (d.before p side k) ++ [.waited (d.retry.delay k)])

/-- What is done up to attempt number `last`. -/
def journalThrough (last : Nat) : List Happening :=
  d.journalBefore p side last ++ d.opening p (d.before p side last)

/-- What is said of a line that could not be opened. -/
def unreachable (count : Nat) (reason : String) : String :=
  "UR dashboard " ++ d.addr ++ " unreachable after " ++ Text.decimal count ++ " attempts: " ++ reason

/-- Attempt number `last` is the last one: it succeeds, or no further one is allowed. -/
inductive LastTry (last : Nat) (result : π × Except String Unit) : Prop where
  | reached (line : (d.tried p side last).2 = .ok ()) (eq : result = d.tried p side last)
  | failed {reason : String} (spent : last + 1 = max 1 d.retry.attempts)
      (refused : (d.tried p side last).2 = .error reason)
      (eq : result = ((d.tried p side last).1, .error (d.unreachable (last + 1) reason)))

theorem opening_contacts : (d.opening p side).countP Happening.isContact = 1 := by
  unfold opening
  split
  · split <;> rfl
  · rfl

theorem opening_waits : (d.opening p side).filterMap Happening.waited? = [] := by
  unfold opening
  split
  · split <;> rfl
  · rfl

theorem journalBefore_contacts (k : Nat) :
    (d.journalBefore p side k).countP Happening.isContact = k := by
  induction k with
  | zero => rfl
  | succ k ih => simp [journalBefore, ih, opening_contacts, Happening.isContact]

/-- What is not done in opening a line is done in the waits. -/
theorem journalBefore_filterMap {β : Type} {part? : Happening → Option β}
    (hopening : ∀ side, (d.opening p side).filterMap part? = []) (k : Nat) :
    (d.journalBefore p side k).filterMap part?
      = (List.range k).filterMap fun j => part? (.waited (d.retry.delay j)) := by
  induction k with
  | zero => rfl
  | succ k ih => simp [journalBefore, ih, hopening, List.range_succ, List.filterMap_cons]

/-- From attempt number `k` on, the attempts go on up to the last one. -/
theorem exists_lastTry (k : Nat) (now : π) (hnow : now = d.before p side k)
    (hk : k < max 1 d.retry.attempts)
    (hfailed : ∀ j < k, ∃ reason, (d.tried p side j).2 = .error reason) :
    ∃ last, last < max 1 d.retry.attempts ∧
      (∀ j < last, ∃ reason, (d.tried p side j).2 = .error reason) ∧
      d.LastTry p side last (d.connectFrom p k now) ∧
      ∀ journal, d.connectFrom p.journaled k (now, journal ++ d.journalBefore p side k)
        = (((d.connectFrom p k now).1, journal ++ d.journalThrough p side last),
            (d.connectFrom p k now).2) := by
  fun_induction Dashboard.connectFrom d p k now with
  | case1 k now reached result hopen =>
    have htried : d.tried p side k = (reached, .ok ()) := by rw [tried, ← hnow, hopen]
    refine ⟨k, hk, hfailed, .reached (by rw [htried]) htried.symm, fun journal => ?_⟩
    rw [connectFrom, openLine_journaled, hopen, journalThrough, ← hnow, List.append_assoc]
  | case2 k now failed reason hopen hallows hleft ih =>
    have htried : d.tried p side k = (failed, .error reason) := by rw [tried, ← hnow, hopen]
    have hnext : p.pause failed (d.retry.delay k) = d.before p side (k + 1) := by
      rw [before, ← hnow, hopen]
    have hall : ∀ j < k + 1, ∃ reason, (d.tried p side j).2 = .error reason := by
      intro j hj
      rcases Nat.lt_succ_iff_lt_or_eq.mp hj with hlt | rfl
      · exact hfailed j hlt
      · exact ⟨reason, by rw [htried]⟩
    obtain ⟨last, hlast, hbefore, htry, hjournal⟩ := ih hnext (by omega) hall
    refine ⟨last, hlast, hbefore, htry, fun journal => ?_⟩
    rw [connectFrom, openLine_journaled, hopen]
    dsimp only
    rw [dif_pos hallows]
    have hwaited : p.journaled.pause (failed, journal ++ d.journalBefore p side k
          ++ d.opening p now) (d.retry.delay k)
        = (p.pause failed (d.retry.delay k), journal ++ d.journalBefore p side (k + 1)) := by
      simp only [Peer.journaled, journalBefore, ← hnow, List.append_assoc]
    rw [hwaited, hjournal]
  | case3 k now failed reason hopen hallows =>
    have htried : d.tried p side k = (failed, .error reason) := by rw [tried, ← hnow, hopen]
    have hspent : k + 1 = max 1 d.retry.attempts := by
      have hnot : ¬k + 1 < d.retry.attempts := by simpa [Backoff.allows] using hallows
      omega
    refine ⟨k, hk, hfailed, .failed hspent (by rw [htried]) (by rw [htried]; rfl),
      fun journal => ?_⟩
    rw [connectFrom, openLine_journaled, hopen]
    dsimp only
    rw [dif_neg hallows, journalThrough, ← hnow, List.append_assoc]

theorem journalThrough_contacts (last : Nat) :
    (d.journalThrough p side last).countP Happening.isContact = last + 1 := by
  rw [journalThrough, List.countP_append, journalBefore_contacts, opening_contacts]

theorem journalThrough_filterMap {β : Type} {part? : Happening → Option β}
    (hopening : ∀ side, (d.opening p side).filterMap part? = []) (last : Nat) :
    (d.journalThrough p side last).filterMap part?
      = (List.range last).filterMap fun j => part? (.waited (d.retry.delay j)) := by
  rw [journalThrough, List.filterMap_append, d.journalBefore_filterMap p side hopening, hopening,
    List.append_nil]

theorem journalThrough_waits (last : Nat) :
    (d.journalThrough p side last).filterMap Happening.waited?
      = (List.range last).map d.retry.delay := by
  rw [d.journalThrough_filterMap p side (d.opening_waits p)]
  exact congrFun List.filterMap_eq_map' _

end Dashboard

/-- **As many attempts as are allowed, and no more.**  The bound on the attempts is any 32-bit word,
and the dashboard does whatever it likes.  There is a last attempt within the bound, or the first one
if none is allowed.  All attempts before it fail, and either it succeeds and its line is the result,
or the bound is reached and the complaint names the number of attempts.  What is done on the line is
these attempts, with one wait between two of them and none after the last, the waits of the policy in
order.  The number of the next attempt always fits the word. -/
theorem connect_makes_allowed_attempts {π : Type} (addr : String) (timeout base cap : Span)
    (attempts : UInt32) (p : Peer π) (side : π) :
    let d : Dashboard := ⟨addr, timeout, ⟨attempts.toNat, base, cap⟩⟩
    ∃ last, last < max 1 attempts.toNat ∧
      (∀ k < last, ∃ reason, (d.tried p side k).2 = .error reason) ∧
      d.LastTry p side last (d.connect p side) ∧
      (∀ journal, d.connect p.journaled (side, journal)
        = (((d.connect p side).1, journal ++ d.journalThrough p side last),
            (d.connect p side).2)) ∧
      (d.journalThrough p side last).countP Happening.isContact = last + 1 ∧
      (d.journalThrough p side last).filterMap Happening.waited?
        = (List.range last).map d.retry.delay ∧
      ∀ k ≤ last, (UInt32.ofNat k + 1).toNat = k + 1 ∧
        (UInt32.ofNat k + 1 < attempts ↔ d.retry.allows k = true) := by
  intro d
  obtain ⟨last, hlast, hfailed, htry, hjournal⟩ :=
    d.exists_lastTry p side 0 side rfl (show 0 < max 1 attempts.toNat by omega) nofun
  have hword := attempts.toNat_lt
  have hbound : last < max 1 attempts.toNat := hlast
  refine ⟨last, hlast, hfailed, htry, fun journal => ?_, d.journalThrough_contacts p side last,
    d.journalThrough_waits p side last, fun k hk => ?_⟩
  · have hfirst := hjournal journal
    rwa [Dashboard.journalBefore, List.append_nil] at hfirst
  · have hnext : (UInt32.ofNat k + 1).toNat = k + 1 := by
      rw [UInt32.toNat_add, UInt32.toNat_ofNat_of_lt' (show k < 2 ^ 32 by omega)]
      show (k + 1) % 2 ^ 32 = k + 1
      omega
    refine ⟨hnext, ?_⟩
    rw [UInt32.lt_iff_toNat_lt, hnext]
    simp [Backoff.allows, d]

/-- A dashboard that refuses every connection is tried twice, with one wait. -/
theorem connect_makes_allowed_attempts_refused :
    let d : Dashboard := ⟨"robot:29999", Span.ofMillis 2000,
      ⟨(2 : UInt32).toNat, Span.ofMillis 200, Span.ofMillis 5000⟩⟩
    let p := Peer.unreachable "Connection refused"
    d.connect p () = ((), .error
        "UR dashboard robot:29999 unreachable after 2 attempts: Connection refused") ∧
      (d.connect p.journaled ((), [])).1.2
        = [.contacted (.failed "Connection refused"), .waited (Span.ofMillis 200),
            .contacted (.failed "Connection refused")] := by
  intro d p
  obtain ⟨last, -, -, htry, hjournal, -⟩ := connect_makes_allowed_attempts "robot:29999"
    (Span.ofMillis 2000) (Span.ofMillis 200) (Span.ofMillis 5000) 2 p ()
  cases htry with
  | reached line => cases line
  | failed spent refused eq =>
    have hlast : last = 1 := Nat.succ.inj spent
    have hreason := Except.error.inj refused
    subst hlast hreason
    have hmessage : d.unreachable 2 "Connection refused"
        = "UR dashboard robot:29999 unreachable after 2 attempts: Connection refused" := by
      decide +kernel
    exact ⟨eq.trans (congrArg (fun message => ((), Except.error message)) hmessage),
      congrArg (fun result => result.1.2) (hjournal [])⟩

end Autosampler
