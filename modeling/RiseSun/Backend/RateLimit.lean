/-
  The rate limiter of the billing API (`auth/billing_deps.py`, `_check_rate_limit`).

  1. **Program** — one window of accepted requests for each API key; times are exact.

  2. **Runs** — requests of any keys one after the other, and what each was answered.

  3. **Invariant** (`Limited`) — the window tracks the accepted requests of its key, holds at most
     the limit, and no closed minute has more of them.  A request of another key touches nothing of
     it (`checkRateLimit_other`).

  4. **`rate_limit_law`** — the three parts of the law, in every run.
-/
import Mathlib.Data.List.Induction
import Mathlib.Data.Rat.Floor
import Mathlib.Data.Set.Finite.List
import Mathlib.Data.Set.Finite.Lattice
import RiseSun.Lib.Proc
import RiseSun.Lib.SlidingWindow
import RiseSun.Backend.Batches

namespace RiseSun.Backend

open SlidingWindow

/-! ## Program -/

/-- The columns of an API key that the limiter reads. -/
structure BillingApiKey where
  id : Int
  rateLimitPerMinute : Int := 60
  deriving DecidableEq, Repr

inductive RateLimitError
  | billing (e : BillingApiError) (retryAfter : Int)
  /-- The oldest request of an empty window, for a limit that is not positive. -/
  | indexError
  deriving DecidableEq, Repr

def rateWindow : ℚ := 60

/-- `int(x)`: cut off towards zero. -/
def truncate (x : ℚ) : Int := if 0 ≤ x then ⌊x⌋ else ⌈x⌉

/-- `_REQUEST_LOG`; a key that was never seen has an empty window. -/
abbrev RequestLog := Int → List ℚ

def rateLimitExceeded (retryAfter : Int) : RateLimitError :=
  .billing ⟨429, "RATE_LIMIT_EXCEEDED", "Превышена частота запросов"⟩ retryAfter

/-- `_check_rate_limit`; what it drops from the window is gone also when it raises. -/
def checkRateLimit (apiKey : BillingApiKey) (now : ℚ) : Proc RateLimitError RequestLog Unit :=
  fun log =>
    let window := prune rateWindow now (log apiKey.id)
    if apiKey.rateLimitPerMinute ≤ window.length then
      (.error (match window with
        | [] => .indexError
        | first :: _ => rateLimitExceeded (max 1 (truncate (rateWindow - (now - first)) + 1))),
        Function.update log apiKey.id window)
    else (.ok (), Function.update log apiKey.id (window ++ [now]))

/-! ## Runs -/

/-- A request, and what became of it. -/
structure HandledRequest where
  apiKey : BillingApiKey
  now : ℚ
  outcome : Except RateLimitError Unit

def handled : RequestLog → List (BillingApiKey × ℚ) → List HandledRequest
  | _, [] => []
  | log, (apiKey, now) :: requests =>
    ⟨apiKey, now, (checkRateLimit apiKey now log).1⟩ ::
      handled (checkRateLimit apiKey now log).2 requests

def logAfter : RequestLog → List (BillingApiKey × ℚ) → RequestLog
  | log, [] => log
  | log, (apiKey, now) :: requests => logAfter (checkRateLimit apiKey now log).2 requests

/-- The times of a key's requests. -/
def timesOf (keyId : Int) (requests : List (BillingApiKey × ℚ)) : List ℚ :=
  (requests.filter (·.1.id = keyId)).map (·.2)

/-- The times of its accepted ones. -/
def acceptedOf (keyId : Int) (hs : List HandledRequest) : List ℚ :=
  (hs.filter fun h => h.apiKey.id = keyId ∧ h.outcome.isOk = true).map (·.now)

theorem handled_append (log : RequestLog) (requests more : List (BillingApiKey × ℚ)) :
    handled log (requests ++ more) = handled log requests ++ handled (logAfter log requests) more := by
  induction requests generalizing log with
  | nil => rfl
  | cons r requests ih => exact congrArg _ (ih _)

theorem logAfter_append (log : RequestLog) (requests more : List (BillingApiKey × ℚ)) :
    logAfter log (requests ++ more) = logAfter (logAfter log requests) more := by
  induction requests generalizing log with
  | nil => rfl
  | cons r requests ih => exact ih _

/-- Where a run is cut between two answers, it is cut between two requests. -/
theorem handled_split {log : RequestLog} {requests : List (BillingApiKey × ℚ)}
    {before after : List HandledRequest} {h : HandledRequest}
    (hcut : handled log requests = before ++ h :: after) :
    ∃ earlier later, requests = earlier ++ (h.apiKey, h.now) :: later ∧
      before = handled log earlier ∧
      h.outcome = (checkRateLimit h.apiKey h.now (logAfter log earlier)).1 ∧
      after = handled (checkRateLimit h.apiKey h.now (logAfter log earlier)).2 later := by
  induction before generalizing log requests with
  | nil =>
    rcases requests with _ | ⟨⟨apiKey, now⟩, requests⟩
    · cases hcut
    · obtain ⟨rfl, rfl⟩ := List.cons.inj hcut
      exact ⟨[], requests, rfl, rfl, rfl, rfl⟩
  | cons b before ih =>
    rcases requests with _ | ⟨⟨apiKey, now⟩, requests⟩
    · cases hcut
    · obtain ⟨rfl, hrest⟩ := List.cons.inj hcut
      obtain ⟨earlier, later, rfl, rfl, houtcome, rfl⟩ := ih hrest
      exact ⟨(apiKey, now) :: earlier, later, rfl, rfl, houtcome, rfl⟩

theorem acceptedOf_append (keyId : Int) (hs more : List HandledRequest) :
    acceptedOf keyId (hs ++ more) = acceptedOf keyId hs ++ acceptedOf keyId more := by
  rw [acceptedOf, List.filter_append, List.map_append]
  rfl

theorem timesOf_append (keyId : Int) (requests more : List (BillingApiKey × ℚ)) :
    timesOf keyId (requests ++ more) = timesOf keyId requests ++ timesOf keyId more := by
  rw [timesOf, List.filter_append, List.map_append]
  rfl

/-! ## One request -/

/-- The window of the requester is pruned; the request is accepted and added to it, or turned away. -/
theorem checkRateLimit_cases (apiKey : BillingApiKey) (now : ℚ) (log : RequestLog)
    (positive : 1 ≤ apiKey.rateLimitPerMinute) :
    let window := prune rateWindow now (log apiKey.id)
    ((window.length : Int) < apiKey.rateLimitPerMinute ∧ checkRateLimit apiKey now log =
      (.ok (), Function.update log apiKey.id (window ++ [now]))) ∨
    (apiKey.rateLimitPerMinute ≤ window.length ∧ ∃ first rest, window = first :: rest ∧
      checkRateLimit apiKey now log =
        (.error (rateLimitExceeded (max 1 (truncate (rateWindow - (now - first)) + 1))),
          Function.update log apiKey.id window)) := by
  dsimp only
  rw [checkRateLimit]
  rcases lt_or_ge ((prune rateWindow now (log apiKey.id)).length : Int)
    apiKey.rateLimitPerMinute with hfree | hfull
  · exact .inl ⟨hfree, if_neg (not_le.mpr hfree)⟩
  · refine .inr ⟨hfull, ?_⟩
    rw [if_pos hfull]
    rcases hwindow : prune rateWindow now (log apiKey.id) with _ | ⟨first, rest⟩
    · rw [hwindow] at hfull
      exact absurd (positive.trans hfull) (by decide)
    · exact ⟨first, rest, rfl, rfl⟩

/-- A request that is counted under one key leaves the windows of all other keys alone. -/
theorem checkRateLimit_other {apiKey : BillingApiKey} {keyId : Int} (hne : apiKey.id ≠ keyId)
    (now : ℚ) (log : RequestLog) : (checkRateLimit apiKey now log).2 keyId = log keyId := by
  rw [checkRateLimit]
  split
  · exact Function.update_of_ne hne.symm _ _
  · exact Function.update_of_ne hne.symm _ _

/-- Who waits as long as the answer says comes after the span. -/
theorem lt_of_retryAfter {first now : ℚ} (hrecent : now - first ≤ rateWindow) :
    rateWindow < now + (max 1 (truncate (rateWindow - (now - first)) + 1) : Int) - first := by
  have hrest : 0 ≤ rateWindow - (now - first) := sub_nonneg.mpr hrecent
  have hlt := Int.lt_floor_add_one (rateWindow - (now - first))
  rw [truncate, if_pos hrest]
  have hle : ((⌊rateWindow - (now - first)⌋ + 1 : Int) : ℚ) ≤
      (max 1 (⌊rateWindow - (now - first)⌋ + 1) : Int) := by
    exact_mod_cast le_max_right _ _
  push_cast at hle hlt ⊢
  linarith

/-! ## Invariant -/

/-- At the moment `now` the window has kept what it must, and no closed minute more than the limit. -/
structure Limited (limit : Nat) (now : ℚ) (accepted window : List ℚ) : Prop where
  tracks : Tracks rateWindow now accepted window
  length_le : window.length ≤ limit
  minute : ∀ start, countFrom rateWindow start accepted ≤ limit

theorem Limited.mono {limit : Nat} {now later : ℚ} {accepted window : List ℚ}
    (h : Limited limit now accepted window) (hle : now ≤ later) : Limited limit later accepted window :=
  ⟨h.tracks.mono hle, h.length_le, h.minute⟩

theorem Limited.prune {limit : Nat} {now : ℚ} {accepted window : List ℚ}
    (h : Limited limit now accepted window) :
    Limited limit now accepted (prune rateWindow now window) :=
  ⟨h.tracks.prune le_rfl, prune_length_le.trans h.length_le, h.minute⟩

/-- One more is accepted while the window has room. -/
theorem Limited.add {limit : Nat} {now : ℚ} {accepted window : List ℚ}
    (h : Limited limit now accepted window) (room : window.length < limit) :
    Limited limit now (accepted ++ [now]) (window ++ [now]) := by
  refine ⟨h.tracks.add, ?_, fun start => ?_⟩
  · rw [List.length_append, List.length_singleton]
    exact room
  · rw [countFrom_append]
    -- an interval with the new moment in it reaches the present
    by_cases hin : start ≤ now ∧ now ≤ start + rateWindow
    · have hone : countFrom rateWindow start [now] ≤ 1 := List.countP_le_length
      have hrest := h.tracks.count_le hin.2
      omega
    · have hnone : countFrom rateWindow start [now] = 0 :=
        List.countP_eq_zero.mpr fun t ht => by
          rw [List.mem_singleton.mp ht]
          exact fun hmem => hin (of_decide_eq_true hmem)
      rw [hnone]
      exact h.minute start

/-! ## Every run -/

section Run

variable {keyId : Int} {limit : Nat}

/-- What a key's own request does to its window and to the times accepted. -/
theorem Limited.request {accepted : List ℚ} {apiKey : BillingApiKey} {now : ℚ} {log : RequestLog}
    (h : Limited limit now accepted (log apiKey.id)) (constant : apiKey.rateLimitPerMinute = limit)
    (positive : 1 ≤ limit) :
    let after := (checkRateLimit apiKey now log).2 apiKey.id
    ((checkRateLimit apiKey now log).1 = .ok () ∧ Limited limit now (accepted ++ [now]) after) ∨
    (∃ first rest, after = first :: rest ∧ rest.length + 1 = limit ∧
      (checkRateLimit apiKey now log).1 =
        .error (rateLimitExceeded (max 1 (truncate (rateWindow - (now - first)) + 1))) ∧
      (∀ t ∈ after, now - t ≤ rateWindow) ∧ Limited limit now accepted after) := by
  have hpruned := h.prune
  have hsorted : (log apiKey.id).Pairwise (· ≤ ·) := by
    obtain ⟨old, hall, -⟩ := h.tracks.back
    exact (List.pairwise_append.mp (hall ▸ h.tracks.sorted)).2.1
  rcases checkRateLimit_cases apiKey now log (by omega) with
    ⟨hfree, hrun⟩ | ⟨hfull, first, rest, hwindow, hrun⟩
  · rw [hrun]
    refine .inl ⟨rfl, ?_⟩
    dsimp only
    rw [Function.update_self]
    exact hpruned.add (by omega)
  · rw [hrun]
    refine .inr ⟨first, rest, ?_, ?_, rfl, ?_⟩
    · exact (Function.update_self ..).trans hwindow
    · have hle := hpruned.length_le
      rw [hwindow, List.length_cons] at hle hfull
      omega
    · dsimp only
      rw [Function.update_self]
      exact ⟨recent_of_sorted hsorted, hpruned⟩

/-- The requests of the key come in order, and its limit does not change. -/
structure Orderly (keyId : Int) (limit : Nat) (requests : List (BillingApiKey × ℚ)) : Prop where
  sorted : (timesOf keyId requests).Pairwise (· ≤ ·)
  constant : ∀ r ∈ requests, r.1.id = keyId → r.1.rateLimitPerMinute = limit

theorem Orderly.of_append {requests more : List (BillingApiKey × ℚ)}
    (h : Orderly keyId limit (requests ++ more)) : Orderly keyId limit requests where
  sorted := (List.pairwise_append.mp (timesOf_append keyId requests more ▸ h.sorted)).1
  constant := fun r hr => h.constant r (List.mem_append_left _ hr)

/-- A request of the key comes after all of the key before it. -/
theorem Orderly.le {requests more : List (BillingApiKey × ℚ)} {apiKey : BillingApiKey} {now : ℚ}
    (h : Orderly apiKey.id limit (requests ++ (apiKey, now) :: more)) :
    ∀ t ∈ timesOf apiKey.id requests, t ≤ now := by
  have hsorted := h.sorted
  rw [timesOf_append] at hsorted
  refine fun t ht => (List.pairwise_append.mp hsorted).2.2 t ht now ?_
  rw [timesOf, List.filter_cons_of_pos (by simp)]
  exact List.mem_cons_self ..

/-- The run lemma: at any moment not before the last request of the key. -/
theorem limited_run (positive : 1 ≤ limit) (requests : List (BillingApiKey × ℚ)) :
    Orderly keyId limit requests → ∀ now, (∀ t ∈ timesOf keyId requests, t ≤ now) →
      Limited limit now (acceptedOf keyId (handled (fun _ => []) requests))
        (logAfter (fun _ => []) requests keyId) := by
  induction requests using List.reverseRecOn with
  | nil =>
    intro _ now _
    exact ⟨Tracks.nil _ _, Nat.zero_le _, fun start => Nat.zero_le _⟩
  | append_singleton requests r ih =>
    obtain ⟨apiKey, time⟩ := r
    intro orderly now hnow
    rw [handled_append, logAfter_append, acceptedOf_append]
    rw [timesOf_append] at hnow
    have hbefore := ih orderly.of_append
    by_cases hkey : apiKey.id = keyId
    · subst hkey
      have htime : time ≤ now := hnow time
        (List.mem_append_right _ (by rw [timesOf, List.filter_cons_of_pos (by simp)]; simp))
      refine Limited.mono ?_ htime
      have hconstant := orderly.constant (apiKey, time) (List.mem_append_right _ (by simp)) rfl
      rcases (hbefore time orderly.le).request hconstant positive with
        ⟨hok, hafter⟩ | ⟨first, rest, hafter, -, herror, -, hlimited⟩
      · have hone : acceptedOf apiKey.id (handled (logAfter (fun _ => []) requests)
            [(apiKey, time)]) = [time] := by
          rw [handled, handled, hok]
          exact congrArg (List.map _) (List.filter_cons_of_pos (by simp [Except.isOk, Except.toBool]))
        rw [hone]
        exact hafter
      · have hnone : acceptedOf apiKey.id (handled (logAfter (fun _ => []) requests)
            [(apiKey, time)]) = [] := by
          rw [handled, handled, herror]
          exact congrArg (List.map _) (List.filter_cons_of_neg (by simp [Except.isOk, Except.toBool]))
        rw [hnone, List.append_nil]
        exact hlimited
    -- nothing of the key happens
    · have hnone : acceptedOf keyId (handled (logAfter (fun _ => []) requests) [(apiKey, time)]) = [] :=
        congrArg (List.map _) (List.filter_cons_of_neg (by simp [hkey]))
      rw [hnone, List.append_nil, logAfter, logAfter, checkRateLimit_other hkey]
      exact hbefore now fun t ht => hnow t (List.mem_append_left _ ht)

/-- While nothing of the key is accepted, its window only loses from the front. -/
theorem logAfter_suffix {log : RequestLog} {requests : List (BillingApiKey × ℚ)}
    (hnone : acceptedOf keyId (handled log requests) = []) :
    logAfter log requests keyId <:+ log keyId := by
  induction requests generalizing log with
  | nil => exact List.suffix_rfl
  | cons r requests ih =>
    obtain ⟨apiKey, now⟩ := r
    rw [handled, ← List.singleton_append, acceptedOf_append] at hnone
    obtain ⟨hfirst, hrest⟩ := List.append_eq_nil_iff.mp hnone
    refine (ih hrest).trans ?_
    by_cases hkey : apiKey.id = keyId
    · subst hkey
      rw [checkRateLimit] at hfirst ⊢
      split at hfirst
      · rw [if_pos ‹_›]
        dsimp only
        rw [Function.update_self]
        exact List.dropWhile_suffix _
      -- an accepted one would be in the list
      · simp [acceptedOf, Except.isOk, Except.toBool] at hfirst
    · exact (checkRateLimit_other hkey now log).symm ▸ List.suffix_rfl

/-- The wait in the answer is long enough, if nothing is accepted meanwhile. -/
theorem accepted_after_wait {first now : ℚ} {rest window : List ℚ} {apiKey : BillingApiKey}
    {log : RequestLog} (positive : 1 ≤ limit) (constant : apiKey.rateLimitPerMinute = limit)
    (hroom : rest.length + 1 = limit) (hrecent : now - first ≤ rateWindow)
    (hwindow : log apiKey.id = window) (hsuffix : window <:+ first :: rest) :
    (checkRateLimit apiKey
      (now + (max 1 (truncate (rateWindow - (now - first)) + 1) : Int)) log).1 = .ok () := by
  generalize hlater : now + ((max 1 (truncate (rateWindow - (now - first)) + 1) : Int) : ℚ) = later
  have hold : rateWindow < later - first := hlater ▸ lt_of_retryAfter hrecent
  have hfew : (prune rateWindow later window).length ≤ rest.length := by
    rcases List.suffix_cons_iff.mp hsuffix with rfl | hsuffix
    · rw [prune_cons_of_lt hold]
      exact prune_length_le
    · exact prune_length_le.trans hsuffix.length_le
  rcases checkRateLimit_cases apiKey later log (by omega) with ⟨-, hrun⟩ | ⟨hfull, -⟩
  · rw [hrun]
  · rw [hwindow] at hfull
    omega

/-- No closed minute has more than the limit; only a full minute is a reason to reject; and the wait
that a rejection asks for is enough. -/
theorem rate_limit_law (positive : 1 ≤ limit) {requests : List (BillingApiKey × ℚ)}
    (orderly : Orderly keyId limit requests) :
    (∀ start, countFrom rateWindow start
      (acceptedOf keyId (handled (fun _ => []) requests)) ≤ limit) ∧
    ∀ before h after e, handled (fun _ => []) requests = before ++ h :: after →
      h.apiKey.id = keyId → h.outcome = .error e →
        limit ≤ countFrom rateWindow (h.now - rateWindow) (acceptedOf keyId before) ∧
        ∃ retryAfter : Int, e = rateLimitExceeded retryAfter ∧
          ∀ between next rest, after = between ++ next :: rest → next.apiKey.id = keyId →
            acceptedOf keyId between = [] → next.now = h.now + (retryAfter : ℚ) →
              next.outcome = .ok () := by
  constructor
  · obtain ⟨now, hnow⟩ := (timesOf keyId requests).finite_toSet.bddAbove
    exact (limited_run positive requests orderly now fun t ht => hnow ht).minute
  · rintro before ⟨apiKey, now, outcome⟩ after e hcut rfl herror
    obtain ⟨earlier, later, rfl, rfl, houtcome, rfl⟩ := handled_split hcut
    have hconstant := orderly.constant (apiKey, now) (by simp) rfl
    have hbefore := limited_run positive earlier orderly.of_append now orderly.le
    dsimp only at herror houtcome hbefore ⊢
    rcases hbefore.request hconstant positive with
      ⟨hok, -⟩ | ⟨first, rest, hwindow, hroom, hreject, hrecent, hafter⟩
    · rw [← houtcome, herror] at hok
      cases hok
    have hfull := hafter.tracks.le_count hrecent
    rw [hwindow, List.length_cons, hroom] at hfull
    rw [← houtcome, herror] at hreject
    refine ⟨hfull, _, Except.error.inj hreject, ?_⟩
    rintro between ⟨nextKey, nextNow, nextOutcome⟩ others hnext hkey hnone hnow
    obtain ⟨waiting, others, rfl, rfl, hanswer, -⟩ := handled_split hnext
    dsimp only at hkey hnow hanswer ⊢
    rw [hanswer, hnow]
    have hnextLimit := orderly.constant (nextKey, nextNow) (by simp) hkey
    refine accepted_after_wait positive hnextLimit hroom ?_ rfl ?_
    · exact hrecent first (hwindow ▸ List.mem_cons_self ..)
    · rw [hkey, ← hwindow]
      exact logAfter_suffix hnone

end Run

/-- Two requests at once, a third one a second later, and one when it was told to come back. -/
theorem rate_limit_law_two :
    let requests : List (BillingApiKey × ℚ) :=
      [(⟨7, 2⟩, 0), (⟨7, 2⟩, 0), (⟨7, 2⟩, 1), (⟨8, 1⟩, 5), (⟨7, 2⟩, 61)]
    Orderly 7 2 requests ∧
    (handled (fun _ => []) requests).map (·.outcome.isOk) = [true, true, false, true, true] ∧
    ∀ start, countFrom rateWindow start (acceptedOf 7 (handled (fun _ => []) requests)) ≤ 2 := by
  have orderly : Orderly 7 2 [((⟨7, 2⟩ : BillingApiKey), (0 : ℚ)), (⟨7, 2⟩, 0), (⟨7, 2⟩, 1),
      (⟨8, 1⟩, 5), (⟨7, 2⟩, 61)] := by
    constructor
    · decide +kernel
    · decide
  exact ⟨orderly, by decide +kernel, (rate_limit_law (by decide) orderly).1⟩

end RiseSun.Backend
