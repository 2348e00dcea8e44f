/-
  How many connections of one meter the pool holds.

  1. **Condition** (`StillCounts`) — when a thread looks at the limit, its own connection is still
     held, or the connections of its meter do not just fill the limit.  The code counts the others
     and evicts the oldest once they fill it, whether or not its own connection is there to be
     the one too many; `crowded_iff` says that nothing less will do.

  2. **Invariant** (`Limited`) — a meter has no more connections in the pool than the limit and the
     threads that have set its serial number and not looked at the limit yet.  The threads are
     those of one finite set, so that one of them leaving it is one connection less.

  3. **Every run** (`serials_limited`).
-/
import Mathlib.Data.Finset.Card
import RiseSun.Gateway.Pool

namespace RiseSun.Gateway

open Machine

variable {config : PoolConfig} {s t : PoolState}

/-! ## Condition -/

/-- The serial number a thread is about to look at the limit of. -/
def Stage.announced : Stage → Option String
  | .named serial => some serial
  | .idle | .admitted _ | .reading | .rejecting | .evicting .. | .asking _ | .serving _ => none

/-- The condition on a step. -/
def StillCounts (config : PoolConfig) (s : PoolState) : PoolAction → Prop
  | .identify connNo => ∀ serial ∈ (s.stage connNo).announced, PyText.isDigit serial = true →
    connNo ∈ s.pool.map (·.connNo) ∨ s.held serial ≠ config.maxPerSerial
  | _ => True

instance (s : PoolState) : ∀ a, Decidable (StillCounts config s a)
  | .identify connNo => inferInstanceAs (Decidable (∀ serial ∈ (s.stage connNo).announced,
      PyText.isDigit serial = true →
      connNo ∈ s.pool.map (·.connNo) ∨ s.held serial ≠ config.maxPerSerial))
  | .admitConnection _ | .proceed _ | .announce .. | .handOver _ | .lookForSibling _ | .finish _ | .claim ..
  | .use .. | .close .. => inferInstanceAs (Decidable True)

/-! ## Counting -/

namespace PoolState

variable {connNo : Nat} {serial : String}

theorem length_sameSerial_le : (s.sameSerial connNo serial).length ≤ s.held serial :=
  List.length_filter_le _ _

theorem sameSerial_absent (absent : ∀ p ∈ s.matching serial, p.connNo ≠ connNo) :
    s.sameSerial connNo serial = s.matching serial :=
  List.filter_eq_self.mpr fun p hp => decide_eq_true (absent p hp)

theorem length_sameSerial_lt {p : PooledConnection} (mem : p ∈ s.matching serial) :
    (s.sameSerial p.connNo serial).length < s.held serial :=
  List.length_filter_lt_length_iff_exists.mpr ⟨p, mem, fun h => of_decide_eq_true h rfl⟩

/-- At most one of the connections of a meter is this one. -/
theorem held_le (sound : s.Sound) (connNo : Nat) (serial : String) :
    s.held serial ≤ (s.sameSerial connNo serial).length + 1 := by
  have hnodup : ((s.matching serial).map (·.connNo)).Nodup :=
    (List.nodup_append.mp sound.once).1.sublist (List.filter_sublist.map _)
  have hone := List.nodup_iff_count_le_one.mp hnodup connNo
  rw [List.count, List.countP_map, List.countP_eq_length_filter] at hone
  have hsplit := (s.matching serial).length_eq_length_filter_add fun p => decide (p.connNo ≠ connNo)
  have hsame : ((s.matching serial).filter fun p => !decide (p.connNo ≠ connNo)) =
      (s.matching serial).filter ((· == connNo) ∘ (·.connNo)) :=
    List.filter_congr fun p _ => by by_cases h : p.connNo = connNo <;> simp [h]
  rw [hsame] at hsplit
  exact hsplit.le.trans (Nat.add_le_add_left hone _)

/-- What the code compares and what it should compare differ when the connection is gone. -/
theorem crowded_iff (sound : s.Sound) (stage : s.stage connNo = .named serial)
    (reached : config.maxPerSerial ≤ (s.sameSerial connNo serial).length) :
    config.maxPerSerial < s.held serial ↔
      connNo ∈ s.pool.map (·.connNo) ∨ s.held serial ≠ config.maxPerSerial := by
  have hreached := reached.trans length_sameSerial_le
  constructor
  · exact fun hlt => .inr hlt.ne'
  · rintro (hmem | hne)
    · obtain ⟨p, hp, rfl⟩ := List.mem_map.mp hmem
      exact reached.trans_lt (length_sameSerial_lt
        (mem_matching.mpr ⟨hp, sound.names_of stage p hp rfl⟩))
    · exact lt_of_le_of_ne hreached hne.symm

theorem matching_leave {gone : List Nat} {exit : Exit} :
    (s.leave gone exit).matching serial = (s.matching serial).filter (·.connNo ∉ gone) :=
  List.filter_comm _ _ _

theorem held_leave_le {gone : List Nat} {exit : Exit} :
    (s.leave gone exit).held serial ≤ s.held serial := by
  rw [held, matching_leave]
  exact List.length_filter_le _ _

theorem held_leave_lt {p : PooledConnection} {exit : Exit} (mem : p ∈ s.matching serial) :
    (s.leave [p.connNo] exit).held serial < s.held serial := by
  rw [held, matching_leave]
  exact List.length_filter_lt_length_iff_exists.mpr
    ⟨p, mem, fun h => of_decide_eq_true h (List.mem_singleton.mpr rfl)⟩

theorem held_enter {now : ℚ} {evicted : Option Nat} :
    (s.enter now evicted).held serial = s.held serial := by
  rw [held, matching, enter, pool, Roster.arrive, List.filter_append, List.filter_singleton]
  exact congrArg List.length (List.append_nil _)

/-- A new serial number does not touch the others of its meter. -/
theorem sameSerial_announce (named : String) :
    (s.announce connNo named).sameSerial connNo serial = s.sameSerial connNo serial := by
  rw [sameSerial, sameSerial, matching, matching, announce, pool, Roster.revise, List.filter_filter,
    List.filter_filter, List.filter_map]
  have hfilter : (s.roster.here.filter ((fun p : PooledConnection =>
        decide (p.connNo ≠ connNo) && decide (p.serial = some serial)) ∘ fun p =>
        if p.connNo = connNo then { p with serial := some named } else p)) =
      s.roster.here.filter fun p =>
        decide (p.connNo ≠ connNo) && decide (p.serial = some serial) := by
    refine List.filter_congr fun p _ => ?_
    by_cases h : p.connNo = connNo <;> simp [h]
  rw [hfilter]
  refine (List.map_congr_left fun p hp => ?_).trans (List.map_id _)
  have hother : p.connNo ≠ connNo := by
    simpa using (Bool.and_eq_true_iff.mp (List.mem_filter.mp hp).2).1
  exact if_neg hother

/-! ## Invariant -/

/-- A meter has no more connections in the pool than the limit and the threads still to look at it. -/
def Limited (config : PoolConfig) (s : PoolState) : Prop :=
  ∀ serial, PyText.isDigit serial = true → ∃ waiting : Finset Nat,
    (∀ c ∈ waiting, s.stage c = .named serial) ∧
      s.held serial ≤ config.maxPerSerial + waiting.card

namespace Limited

theorem of_le (h : s.Limited config) (held : ∀ serial, t.held serial ≤ s.held serial)
    (waits : ∀ c serial, PyText.isDigit serial = true → s.stage c = .named serial →
      t.stage c = .named serial) : t.Limited config := fun serial digits => by
  obtain ⟨waiting, hwaiting, hheld⟩ := h serial digits
  exact ⟨waiting, fun c hc => waits c serial digits (hwaiting c hc), (held serial).trans hheld⟩

/-- A thread that does not wait may go on. -/
theorem advance {stage : Stage} (h : s.Limited config)
    (busy : ∀ serial, PyText.isDigit serial = true → s.stage connNo ≠ .named serial) :
    (s.advance connNo stage).Limited config :=
  h.of_le (fun _ => le_rfl) fun c serial digits hc => by
    have hne : c ≠ connNo := fun heq => busy serial digits (heq ▸ hc)
    simpa only [PoolState.advance, Function.update_of_ne hne] using hc

theorem leave {gone : List Nat} {exit : Exit} (h : s.Limited config) :
    (s.leave gone exit).Limited config := h.of_le (fun _ => held_leave_le) fun _ _ _ => id

/-- A thread that has set the number waits for its connection. -/
theorem announce (sound : s.Sound) (h : s.Limited config) (stage : s.stage connNo = .reading) :
    (s.announce connNo serial).Limited config := by
  have hafter : (s.announce connNo serial).Sound := sound.announce stage
  have hnamed : (s.announce connNo serial).stage connNo = .named serial := Function.update_self _ _ _
  have hsame : ∀ c other, s.stage c = .named other →
      (s.announce connNo serial).stage c = .named other := fun c other hc => by
    have hne : c ≠ connNo := by
      rintro rfl
      rw [stage] at hc
      cases hc
    simpa only [PoolState.announce, Function.update_of_ne hne] using hc
  intro other digits
  obtain ⟨waiting, hwaiting, hheld⟩ := h other digits
  have hothers : ((s.announce connNo serial).sameSerial connNo other).length ≤
      config.maxPerSerial + waiting.card := by
    rw [sameSerial_announce]
    exact length_sameSerial_le.trans hheld
  -- its own meter gets one connection more, and one thread to look at the limit
  rcases eq_or_ne other serial with rfl | hne
  · have hnew : connNo ∉ waiting := fun hmem => by
      have hnamed := hwaiting connNo hmem
      rw [stage] at hnamed
      cases hnamed
    refine ⟨insert connNo waiting, fun c hc => ?_, ?_⟩
    · rcases Finset.mem_insert.mp hc with rfl | hc
      · exact hnamed
      · exact hsame c other (hwaiting c hc)
    · rw [Finset.card_insert_of_notMem hnew]
      exact (held_le hafter connNo other).trans (Nat.succ_le_succ hothers)
  -- any other meter has what it had: the connection was nobody's before
  · have habsent : ∀ p ∈ (s.announce connNo serial).matching other, p.connNo ≠ connNo := by
      intro p hp heq
      obtain ⟨hmem, hserial⟩ := mem_matching.mp hp
      exact hne (Option.some.inj (hserial.symm.trans (hafter.names_of hnamed p hmem heq)))
    refine ⟨waiting, fun c hc => hsame c other (hwaiting c hc), ?_⟩
    rwa [sameSerial_absent habsent] at hothers

/-- A thread has looked at the limit: its meter is within it now, or has lost a connection. -/
theorem identify {stage : Stage} (h : s.Limited config) (named : s.stage connNo = .named serial)
    (moved : t.stage = Function.update s.stage connNo stage)
    (held : ∀ other, t.held other ≤ s.held other)
    (own : t.held serial ≤ config.maxPerSerial ∨ t.held serial < s.held serial) :
    t.Limited config := by
  have hsame : ∀ c, c ≠ connNo → t.stage c = s.stage c := fun c hne => by
    rw [moved, Function.update_of_ne hne]
  intro other digits
  obtain ⟨waiting, hwaiting, hheld⟩ := h other digits
  have hrest : ∀ c ∈ waiting.erase connNo, t.stage c = .named other := fun c hc =>
    (hsame c (Finset.ne_of_mem_erase hc)).trans (hwaiting c (Finset.mem_of_mem_erase hc))
  rcases eq_or_ne other serial with rfl | hne
  · rcases own with hwithin | hlost
    · exact ⟨∅, fun c hc => absurd hc (Finset.notMem_empty c), hwithin.trans (Nat.le_add_right _ _)⟩
    -- one thread less is made up for by the connection it threw out
    · have hcard := Finset.pred_card_le_card_erase (s := waiting) (a := connNo)
      exact ⟨waiting.erase connNo, hrest, by omega⟩
  -- the thread did not wait for another meter
  · have hout : connNo ∉ waiting := fun hmem => by
      rw [hwaiting connNo hmem] at named
      exact hne (Stage.named.inj named)
    rw [Finset.erase_eq_of_notMem hout] at hrest
    exact ⟨waiting, hrest, (held other).trans hheld⟩

theorem enter {now : ℚ} {evicted : Option Nat} (sound : s.Sound) (h : s.Limited config) :
    (s.enter now evicted).Limited config :=
  h.of_le (fun _ => held_enter.le) fun c serial _ hc => by
    have hne : c ≠ s.nextConnNo + 1 := by
      rintro rfl
      rw [sound.idle_of_new] at hc
      cases hc
    simpa only [PoolState.enter, Function.update_of_ne hne] using hc

theorem step {a : PoolAction} (limited : 1 ≤ config.maxPerSerial) (sound : s.Sound)
    (h : s.Limited config) (change : PoolChange config s a t) : t.Limited config := by
  cases change with
  | admitted => exact h.enter sound
  | windowFull => exact h.leave.enter sound.leave
  | noWindow => exact h
  | proceeded after =>
    refine advance (s := s.noteCloses _) h fun serial _ hc => ?_
    rw [show s.stage _ = _ from hc] at after
    cases after
  | announced stage => exact h.announce sound stage
  | rejected stage broken =>
    refine h.leave.advance fun serial digits hc => ?_
    rw [Stage.named.inj (stage.symm.trans hc), digits] at broken
    cases broken
  -- the others do not fill the limit, so with its own connection it is not exceeded
  | limitFree stage _ free =>
    exact h.identify stage rfl (fun _ => le_rfl) (.inl ((held_le sound _ _).trans free))
  | @limitReached connNo serial oldest _ stage _ _ first =>
    have hmem : oldest ∈ s.sameSerial connNo serial := first ▸ List.mem_cons_self
    exact h.identify stage rfl (fun _ => held_leave_le)
      (.inr (held_leave_lt (List.mem_of_mem_filter hmem)))
  -- a limit of zero, where the code fails
  | noLimit _ _ reached => exact absurd (limited.trans reached) (Nat.not_succ_le_zero 0)
  | handedOver stage =>
    refine h.leave.advance fun _ _ hc => ?_
    cases stage.symm.trans hc
  | goneBefore stage =>
    refine h.advance fun _ _ hc => ?_
    cases stage.symm.trans hc
  | siblingFound | claimed => exact h.leave
  | noSibling | claimedInVain | used | closed => exact h
  | finished ends =>
    refine h.advance fun _ _ hc => ?_
    rw [hc] at ends
    cases ends

end Limited

end PoolState

/-- The thread was started, and has not ended. -/
def Stage.isRunning : Stage → Bool
  | .idle | .admitted _ => false
  | .reading | .named _ | .rejecting | .evicting .. | .asking _ | .serving _ => true

/-- With all threads at rest, no meter has more connections than the limit. -/
theorem PoolState.Limited.quiet (h : s.Limited config) (sound : s.Sound)
    (rest : ∀ connNo, (s.stage connNo).isRunning = false) (serial : String) :
    s.held serial ≤ config.maxPerSerial := by
  have hnamed : ∀ connNo, s.stage connNo ≠ .named serial := fun connNo hstage => by
    have hrest := rest connNo
    rw [hstage] at hrest
    cases hrest
  rcases hdigits : PyText.isDigit serial
  -- a broken number is held only while its thread stands before the lock
  · have hnone : s.matching serial = [] := List.eq_nil_iff_forall_not_mem.mpr fun p hp => by
      obtain ⟨hmem, hserial⟩ := PoolState.mem_matching.mp hp
      exact hnamed p.connNo
        (Stage.Names.named (hserial ▸ sound.names p hmem) (sound.settled _) hdigits)
    rw [PoolState.held, hnone]
    exact Nat.zero_le _
  · obtain ⟨waiting, hwaiting, hheld⟩ := h serial hdigits
    have hempty : waiting = ∅ :=
      Finset.eq_empty_of_forall_notMem fun c hc => hnamed c (hwaiting c hc)
    rwa [hempty, Finset.card_empty] at hheld

/-! ## Evictions -/

theorem limits_step {a : PoolAction} (sound : s.Sound) (counts : StillCounts config s a)
    (h : ∀ r ∈ s.limits, config.maxPerSerial < r.2) (change : PoolChange config s a t) :
    ∀ r ∈ t.limits, config.maxPerSerial < r.2 := by
  cases change with
  | @limitReached connNo serial _ _ stage digits reached =>
    intro r hr
    rcases List.mem_append.mp hr with hbefore | hnew
    · exact h r hbefore
    · obtain rfl := List.mem_singleton.mp hnew
      exact (PoolState.crowded_iff sound stage reached).mpr
        (counts serial (congrArg Stage.announced stage) digits)
  | admitted | windowFull | noWindow | proceeded | announced | rejected | limitFree | noLimit
  | handedOver | goneBefore | siblingFound | noSibling | finished | claimed | claimedInVain | used
  | closed => exact h

/-! ## Every run -/

/-- The limit costs a meter a connection only if it held more than that, and with no identification
    running no meter holds more. -/
structure PoolState.WithinLimit (config : PoolConfig) (s : PoolState) : Prop where
  evictions : ∀ serial held, (serial, held) ∈ s.limits → config.maxPerSerial < held
  quiet : (∀ connNo, (s.stage connNo).isRunning = false) →
    ∀ serial, s.held serial ≤ config.maxPerSerial

/-- In every run in which a connection is still held when its thread looks at the limit, or the limit
    is not just filled, the pool keeps to it. -/
theorem serials_limited {actions : List PoolAction} (limited : 1 ≤ config.maxPerSerial)
    (run : Run (poolStep config) (StillCounts config) {} actions s) : s.WithinLimit config := by
  have hsound := PoolState.Sound.run run
  have hlimited : s.Sound ∧ s.Limited config :=
    run.invariant (I := fun s => s.Sound ∧ s.Limited config)
      ⟨.initial, fun _ _ => ⟨∅, fun c hc => absurd hc (Finset.notMem_empty c), Nat.zero_le _⟩⟩
      fun ⟨hsound, hlimited⟩ _ next =>
        ⟨hsound.step (poolStep_change next), hlimited.step limited hsound (poolStep_change next)⟩
  have hevictions : s.Sound ∧ ∀ r ∈ s.limits, config.maxPerSerial < r.2 :=
    run.invariant (I := fun s => s.Sound ∧ ∀ r ∈ s.limits, config.maxPerSerial < r.2)
      ⟨.initial, fun _ h => (nomatch h)⟩
      fun ⟨hsound, hlimits⟩ counts next =>
        ⟨hsound.step (poolStep_change next), limits_step hsound counts hlimits (poolStep_change next)⟩
  exact ⟨fun serial held hmem => hevictions.2 (serial, held) hmem, hlimited.2.quiet hsound⟩

/-! ### One connection a meter -/

/-- The second call of a meter costs it the first. -/
theorem serials_limited_one : ∃ s : PoolState, s.limits = [(meterSerial, 2)] ∧
    s.held meterSerial = 1 ∧ s.WithinLimit { maxPerSerial := 1 } := by
  have hexec : ((exec (guarded (poolStep { maxPerSerial := 1 }) (StillCounts { maxPerSerial := 1 }))
      {} (callIn 1 meterAddress ++ [.identify 1, .proceed 1, .finish 1] ++
        callIn 2 meterAddress ++ [.identify 2, .proceed 2, .finish 2])).map
        fun s => (s.limits, s.held meterSerial)) = some ([(meterSerial, 2)], 1) := by decide
  obtain ⟨s, hrun, hresult⟩ := Option.map_eq_some_iff.mp hexec
  obtain ⟨hlimits, hheld⟩ := Prod.mk.inj hresult
  exact ⟨s, hlimits, hheld, serials_limited (by decide) (Run.of_guarded hrun)⟩

/-- The second call of a meter is claimed before its thread looks at the limit: it costs the meter the
    first one all the same, and with it the last it had in the pool. -/
theorem claimed_call_evicts :
    ¬ ∀ (config : PoolConfig) (actions : List PoolAction) (s : PoolState), 1 ≤ config.maxPerSerial →
      Run (poolStep config) (fun _ _ => True) {} actions s → s.WithinLimit config := by
  intro h
  have hexec : ((exec (guarded (poolStep { maxPerSerial := 1 }) fun _ _ => True) {}
      (callIn 1 meterAddress ++ [.identify 1, .proceed 1, .finish 1] ++
        callIn 2 meterAddress ++ [.claim 7 meterSerial none 1, .identify 2])).map
        fun s => s.limits) = some [(meterSerial, 1)] := by decide
  obtain ⟨s, hrun, hlimits⟩ := Option.map_eq_some_iff.mp hexec
  have hmore := (h { maxPerSerial := 1 } _ s (by decide) (Run.of_guarded hrun)).evictions meterSerial 1
    (hlimits ▸ List.mem_singleton.mpr rfl)
  exact absurd hmore (by decide)

end RiseSun.Gateway
