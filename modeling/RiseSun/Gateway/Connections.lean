/-
  What becomes of the connections an event takes out of the pool.

  1. **Accounts** — for each part of the program, which connections it takes and closes, whatever it
     returns or raises.

  2. **When nothing leaks** (`ControlReleases`, `ReadReleases`, `Releases`) — the conditions follow
     the run: a relay command with a connection has a type that is known, and as long as candidates
     are left over, what the meter and the backend send lets the job before them be served.

  3. **The event** (`maybeTrigger_releases_iff`) — every connection taken has been closed iff the
     event releases them.
-/
import RiseSun.Gateway.ServedJobs

namespace RiseSun.Gateway

open Proc

variable {ω : Type} (E : Environment ω) (serial : String) (password : Bytes)

/-! ## Accounts -/

/-- The connections of a list, as an account. -/
def numbers (connections : List PooledConnection) : Multiset Nat :=
  (connections.map (·.connNo) : List Nat)

/-- An empty list of connections has no numbers. -/
@[simp] theorem numbers_nil : numbers [] = 0 := rfl

/-- The number of the first connection comes to those of the others. -/
@[simp] theorem numbers_cons (p : PooledConnection) (rest : List PooledConnection) :
    numbers (p :: rest) = p.connNo ::ₘ numbers rest := rfl

/-- There are no numbers exactly where there are no connections. -/
@[simp] theorem numbers_eq_zero {connections : List PooledConnection} :
    numbers connections = 0 ↔ connections = [] := by
  rw [numbers, Multiset.coe_eq_zero, List.map_eq_nil_iff]

/-- Nothing is owned exactly if there is neither a connection at hand nor one kept elsewhere. -/
theorem numbers_add_eq_zero {connections : List PooledConnection} {kept : Multiset Nat} :
    numbers connections + kept = 0 ↔ connections = [] ∧ kept = 0 := by
  rcases connections with _ | ⟨p, rest⟩
  · rw [numbers_nil, Multiset.zero_add, and_iff_right rfl]
  · rw [numbers_cons, Multiset.cons_add]
    exact ⟨fun h => absurd h Multiset.cons_ne_zero, fun h => nomatch h.1⟩

/-- Closing connections that are owned leaves what else is owned: induction on the connections. -/
theorem closeAll_run : ∀ (connections : List PooledConnection) {s : CallHome ω} {kept : Multiset Nat},
    s.owned = numbers connections + kept →
    ∃ s', closeAll connections s = (.ok (), s') ∧ s'.owned = kept
  | [], s, kept, h => ⟨s, rfl, by rw [h, numbers_nil, Multiset.zero_add]⟩
  | p :: rest, s, kept, h => by
    refine closeAll_run rest (s := { s with owned := s.owned.erase p.connNo }) ?_
    show s.owned.erase p.connNo = _
    rw [h, numbers_cons, Multiset.cons_add, Multiset.erase_cons_head]

/-- A look for a sibling never fails, and what it finds is owned from then on. -/
theorem takeSibling_run (s : CallHome ω) : ∃ found s', takeSibling serial s = (.ok found, s') ∧
    s'.owned = numbers found.toList + s.owned := by
  rw [takeSibling, gets_bind_run]
  generalize s.shared.1.find? _ = found
  rcases found with _ | p
  · exact ⟨none, s, rfl, (Multiset.zero_add _).symm⟩
  · refine ⟨some p, _, rfl, ?_⟩
    show p.connNo ::ₘ s.owned = (p.connNo ::ₘ 0) + s.owned
    rw [Multiset.cons_add, Multiset.zero_add]

/-- A wait for a sibling takes the connection it returns, if it returns one. -/
theorem waitForSibling_run (s : CallHome ω) :
    ∃ found s', waitForSiblingConnection E serial s = (.ok found, s') ∧
      s'.owned = numbers found.toList + s.owned := by
  rw [waitForSiblingConnection, gets_bind_run]
  generalize E.polls s.shared = polls
  induction polls generalizing s with
  | zero => exact takeSibling_run serial s
  | succ polls ih =>
    rw [waitLoop]
    obtain ⟨found, s', hlook, howned⟩ := takeSibling_run serial s
    rw [bind_ok hlook]
    rcases found with _ | p
    · obtain ⟨found, s'', hrest, hrest_owned⟩ := ih { s' with shared := E.pause s'.shared }
      refine ⟨found, s'', hrest, ?_⟩
      rw [hrest_owned, howned]
      exact congrArg _ (Multiset.zero_add _)
    · exact ⟨some p, s', rfl, howned⟩

/-- Taking connections makes them owned: induction on the connections. -/
theorem takeEach_run : ∀ (connections : List PooledConnection) (s : CallHome ω),
    ∃ s', takeEach connections s = (.ok (), s') ∧ s'.owned = numbers connections + s.owned
  | [], s => ⟨s, rfl, (Multiset.zero_add _).symm⟩
  | p :: rest, s => by
    obtain ⟨s', hrest, howned⟩ := takeEach_run rest
      { s with shared := (s.shared.1.filter (·.connNo ≠ p.connNo), s.shared.2)
               owned := p.connNo ::ₘ s.owned }
    refine ⟨s', hrest, ?_⟩
    rw [howned, numbers_cons, Multiset.cons_add, Multiset.add_cons]

/-- The candidate of an attempt is closed, whatever comes out of it. -/
theorem attempt_close_owned {α β : Type} (x : Proc Raised (Shared ω) α) (p : PooledConnection)
    (k : Except Raised α → Proc Raised (CallHome ω) β) (hk : ∀ r s, (k r s).2 = s)
    {s : CallHome ω} {kept : Multiset Nat} (h : s.owned = p.connNo ::ₘ kept) :
    ((attempt (outside x) >>= fun outcome => close p >>= fun _ => k outcome) s).2.owned = kept := by
  rw [attempt_bind_run]
  show (k _ _).2.owned = kept
  rw [hk]
  show s.owned.erase p.connNo = kept
  rw [h, Multiset.erase_cons_head]

/-- A control command closes the connection it was given, however it ends, and no other. -/
theorem runCommand_owned {candidate : PooledConnection} (methodId : UInt8) {s : CallHome ω}
    {kept : Multiset Nat} (h : s.owned = candidate.connNo ::ₘ kept) :
    (runCommand E serial password candidate methodId s).2.owned = kept := by
  refine attempt_close_owned _ candidate _ (fun r s => ?_) h
  split <;> rfl

/-- A reading closes the connection it was given, however it ends, and no other. -/
theorem readCandidate_owned (obisSpecs : List (String × Int)) {candidate : PooledConnection}
    {s : CallHome ω} {kept : Multiset Nat} (h : s.owned = candidate.connNo ::ₘ kept) :
    (readCandidate E serial password obisSpecs candidate s).2.owned = kept := by
  refine attempt_close_owned _ candidate _ (fun r s => ?_) h
  split <;> rfl

/-- The reading of a load profile closes the connection it was given, and no other. -/
theorem runProfile_owned (job : DueLoadProfileJob) {candidate : PooledConnection}
    {s : CallHome ω} {kept : Multiset Nat} (h : s.owned = candidate.connNo ::ₘ kept) :
    (runProfile E serial password candidate job s).2.owned = kept := by
  refine attempt_close_owned _ candidate _ (fun r s => ?_) h
  split <;> rfl

/-- Reporting a job does not touch the connections. -/
theorem serve_owned {α : Type} (jobId : Int) (work : Proc Raised (CallHome ω) α)
    (report : α → Proc Raised (Shared ω) Bool) (s : CallHome ω) :
    (serve jobId work report s).2.owned =
      (work { s with obtained := s.obtained ++ [jobId] }).2.owned := by
  obtain ⟨r, s₁, shared, hwork, ⟨-, hrun⟩ | ⟨-, e, hrun⟩⟩ := serve_run work report jobId s
  · rw [hrun, hwork]
  · rw [hrun, hwork]

/-- A job with a connection closes it if its type is known, and only then. -/
theorem serveControl_owned (job : DueControlJob) {candidate : PooledConnection} {s : CallHome ω}
    {kept : Multiset Nat} (h : s.owned = candidate.connNo ::ₘ kept) :
    (serveControl E serial password candidate job s).2.owned =
      if (methodIds.lookup job.jobType).isSome then kept else candidate.connNo ::ₘ kept := by
  rw [serveControl, serve_owned, controlError]
  rcases methodIds.lookup job.jobType with _ | methodId
  · exact h
  · exact runCommand_owned E serial password methodId h

/-! ## Relay commands -/

/-- A job takes the first candidate, or else the next connection of the meter. -/
theorem nextCandidate_run (remaining : List PooledConnection) {s : CallHome ω} {kept : Multiset Nat}
    (h : s.owned = numbers remaining + kept) : ∃ candidate rest s',
      nextCandidate E serial remaining s = (.ok (candidate, rest), s') ∧
      s'.owned = numbers candidate.toList + (numbers rest + kept) := by
  rcases remaining with _ | ⟨candidate, rest⟩
  · obtain ⟨found, s', hwait, howned⟩ := waitForSibling_run E serial s
    refine ⟨found, [], s', bind_ok hwait, ?_⟩
    rw [howned, h]
  · refine ⟨some candidate, rest, s, rfl, ?_⟩
    rw [h, numbers_cons, Multiset.cons_add]
    exact (Multiset.singleton_add _ _).symm

/-- Every job that gets a connection has a type that is known, and while candidates are left over it
    is served. -/
def ControlReleases : List DueControlJob → List PooledConnection → CallHome ω → Prop
  | [], _, _ => True
  | job :: jobs, remaining, s =>
    match nextCandidate E serial remaining { s with begun := s.begun ++ [job.jobId] } with
    | (.error _, _) => True
    | (.ok (none, rest), s₁) => ControlReleases jobs rest s₁
    | (.ok (some candidate, rest), s₁) => (methodIds.lookup job.jobType).isSome ∧
      (rest ≠ [] → ControlServed E serial password candidate job
        { s₁ with obtained := s₁.obtained ++ [job.jobId] }) ∧
      ∀ s₂, serveControl E serial password candidate job s₁ = (.ok (), s₂) →
        ControlReleases jobs rest s₂

/-- A command that is raised out of was not served. -/
theorem serveControl_error {candidate : PooledConnection} {job : DueControlJob} {s s' : CallHome ω}
    {e : Raised} (h : serveControl E serial password candidate job s = (.error e, s')) :
    ¬ ControlServed E serial password candidate job
      { s with obtained := s.obtained ++ [job.jobId] } := by
  rw [← served_control_iff, ← serve_returns]
  rintro ⟨_, hok⟩
  cases h.symm.trans hok

/-- A control job that ends without an exception was served by what the meter and the backend sent.
    -/
theorem serveControl_ok {candidate : PooledConnection} {job : DueControlJob} {s s' : CallHome ω}
    (h : serveControl E serial password candidate job s = (.ok (), s')) :
    ControlServed E serial password candidate job
      { s with obtained := s.obtained ++ [job.jobId] } := by
  rw [← served_control_iff, ← serve_returns]
  exact ⟨s', h⟩

/-- After the control jobs nothing is owned exactly if nothing else was and the jobs release what
    they were given: induction on the jobs. -/
theorem runControlJobs_owned : ∀ (jobs : List DueControlJob) (remaining : List PooledConnection)
    {s : CallHome ω} {kept : Multiset Nat}, s.owned = numbers remaining + kept →
    ((runControlJobs E serial password jobs remaining s).2.owned = 0 ↔
      kept = 0 ∧ ControlReleases E serial password jobs remaining s)
  | [], remaining, s, kept, h => by
    obtain ⟨s', hclose, howned⟩ := closeAll_run remaining h
    rw [runControlJobs, hclose, howned, ControlReleases, and_true]
  | job :: jobs, remaining, s, kept, h => by
    obtain ⟨candidate, rest, s₁, hnext, howned⟩ := nextCandidate_run E serial remaining
      (s := { s with begun := s.begun ++ [job.jobId] }) h
    rw [runControlJobs, noteBegun, modify_bind_run, bind_ok hnext, ControlReleases, hnext]
    rcases candidate with _ | candidate
    · refine runControlJobs_owned jobs rest (howned.trans ?_)
      exact Multiset.zero_add _
    · have hserved := @serveControl_owned _ E serial password job candidate s₁ _
        (howned.trans (Multiset.singleton_add _ _))
      dsimp only
      rcases hrun : serveControl E serial password candidate job s₁ with ⟨e | _, s₂⟩
      · have hnot := serveControl_error E serial password hrun
        rw [bind_error hrun]
        rw [hrun] at hserved
        dsimp only at hserved ⊢
        rw [hserved]
        -- The run ends here: the candidate is left if its type is unknown, and so is the rest.
        rcases hknown : (methodIds.lookup job.jobType).isSome with _ | _
        · simp
        · rw [if_pos rfl, numbers_add_eq_zero, and_comm]
          refine and_congr_right fun _ => ?_
          constructor
          · intro hnil
            exact ⟨rfl, fun hne => absurd hnil hne, fun _ hok => (by cases hok)⟩
          · rintro ⟨-, hleft, -⟩
            by_contra hne
            exact hnot (hleft hne)
      · have hyes := serveControl_ok E serial password hrun
        have hunique : ∀ {p : CallHome ω → Prop},
            (∀ s₂', (Except.ok (), s₂) = (Except.ok (ε := Raised) (), s₂') → p s₂') ↔ p s₂ :=
          fun {p} => ⟨fun h => h s₂ rfl, fun h _ heq => by cases heq; exact h⟩
        rw [bind_ok hrun, hunique, and_iff_right fun _ => hyes]
        rw [hrun] at hserved
        dsimp only at hserved ⊢
        -- The run goes on: a candidate of an unknown type is added to what is kept.
        rcases hknown : (methodIds.lookup job.jobType).isSome with _ | _
        · rw [hknown, if_neg Bool.false_ne_true, ← Multiset.add_cons] at hserved
          rw [runControlJobs_owned jobs rest hserved]
          simp
        · rw [hknown, if_pos rfl] at hserved
          rw [runControlJobs_owned jobs rest hserved]
          simp

/-! ## Readings -/

section Read

variable (obisSpecs : List (String × Int))

/-- Round by round, while candidates are left over, the reading over the one before them is
    served. -/
def ReadReleases : (rounds : Nat) → List PooledConnection → CallHome ω → Prop
  | 0, _, _ => True
  | rounds + 1, [], s => ∀ next s₁, waitForSiblingConnection E serial s = (.ok (some next), s₁) →
      ReadReleases rounds [next] s₁
  | rounds + 1, candidate :: remaining, s =>
    (remaining ≠ [] → ReadServed E serial password obisSpecs candidate s) ∧
    ∀ outcomes s₁, readCandidate E serial password obisSpecs candidate s =
      (.ok (outcomes, false), s₁) → ReadReleases rounds remaining s₁

/-- The rounds leave the candidates they return, or those that an exception has left over. -/
theorem readRounds_owned : ∀ (rounds : Nat) (remaining : List PooledConnection)
    (outcomes : List RegisterReadOutcome) {s : CallHome ω}, s.owned = numbers remaining →
    match readRounds E serial password obisSpecs rounds remaining outcomes s with
    | (.ok (_, left), s') => s'.owned = numbers left ∧
        ReadReleases E serial password obisSpecs rounds remaining s
    | (.error _, s') => s'.owned = 0 ↔ ReadReleases E serial password obisSpecs rounds remaining s
  | 0, remaining, outcomes, s, h => ⟨h, trivial⟩
  | rounds + 1, [], outcomes, s, h => by
    obtain ⟨found, s₁, hwait, howned⟩ := waitForSibling_run E serial s
    rw [h, numbers_nil, Multiset.add_zero] at howned
    rw [readRounds, bind_ok hwait, ReadReleases, hwait]
    rcases found with _ | next
    · exact ⟨howned, fun _ _ h => (by cases h)⟩
    · have hunique : (∀ next' s₁', (Except.ok (ε := Raised) (some next), s₁) =
          (Except.ok (some next'), s₁') →
          ReadReleases E serial password obisSpecs rounds [next'] s₁') ↔
          ReadReleases E serial password obisSpecs rounds [next] s₁ :=
        ⟨fun h => h next s₁ rfl, fun h _ _ heq => by cases heq; exact h⟩
      rw [hunique]
      exact readRounds_owned rounds [next] outcomes howned
  | rounds + 1, candidate :: remaining, outcomes, s, h => by
    rw [numbers_cons] at h
    have hread := readCandidate_owned E serial password obisSpecs h
    have hserved := served_read_iff E serial password obisSpecs candidate s
    rw [readRounds, ReadReleases, ← hserved]
    rcases hrun : readCandidate E serial password obisSpecs candidate s with ⟨e | ⟨values, done⟩, s₁⟩
    · rw [hrun] at hread
      rw [bind_error hrun]
      dsimp only at hread ⊢
      rw [hread, numbers_eq_zero]
      -- what is raised out of the round leaves the candidates that are left over
      constructor
      · intro hnil
        exact ⟨fun hne => absurd hnil hne, fun _ _ hok => (by cases hok)⟩
      · rintro ⟨hleft, -⟩
        by_contra hne
        obtain ⟨_, _, hok⟩ := hleft hne
        cases hok
    · rw [hrun] at hread
      rw [bind_ok hrun, and_iff_right fun _ => ⟨_, _, rfl⟩]
      rcases done with _ | _
      · have hunique : (∀ values' s₁', (Except.ok (ε := Raised) (values, false), s₁) =
            (Except.ok (values', false), s₁') →
            ReadReleases E serial password obisSpecs rounds remaining s₁') ↔
            ReadReleases E serial password obisSpecs rounds remaining s₁ :=
          ⟨fun h => h values s₁ rfl, fun h _ _ heq => by cases heq; exact h⟩
        rw [hunique]
        exact readRounds_owned rounds remaining values hread
      · exact ⟨hread, fun _ _ hok => (by cases hok)⟩

end Read

/-- After the reading jobs nothing is owned exactly if the rounds release the candidates. -/
theorem runReadJobs_owned (jobs : List DueJob) (candidates : List PooledConnection)
    {s : CallHome ω} (h : s.owned = numbers candidates) :
    (runReadJobs E serial password jobs candidates s).2.owned = 0 ↔
      ReadReleases E serial password (jobs.map fun job => (job.obis, job.classId))
        (E.rounds s.shared) candidates s := by
  have hrounds := readRounds_owned E serial password (jobs.map fun job => (job.obis, job.classId))
    (E.rounds s.shared) candidates [] h
  rw [runReadJobs, gets_bind_run]
  rcases hrun : readRounds E serial password (jobs.map fun job => (job.obis, job.classId))
    (E.rounds s.shared) candidates [] s with ⟨e | ⟨outcomes, left⟩, s₁⟩
  · rw [hrun] at hrounds
    rw [bind_error hrun]
    exact hrounds
  · rw [hrun] at hrounds
    obtain ⟨howned, hreleases⟩ := hrounds
    -- What the rounds left is closed before the report, so a report that fails leaks nothing.
    obtain ⟨s₂, hclose, hclosed⟩ := closeAll_run left (howned.trans (Multiset.add_zero _).symm)
    rw [bind_ok hrun]
    dsimp only
    rw [bind_ok hclose]
    refine ⟨fun _ => hreleases, fun _ => ?_⟩
    rcases Decidable.em (outcomes ≠ []) with hsome | hnone
    · rw [if_pos hsome]
      rcases hreport : outside (E.reportJobResults serial (List.zipWith readingReport jobs outcomes))
        s₂ with ⟨e | _, s₃⟩
      · rw [bind_error hreport]
        exact (congrArg (·.2.owned) hreport.symm).trans hclosed
      · rw [bind_ok hreport]
        exact (congrArg (·.2.owned) hreport.symm).trans hclosed
    · rw [if_neg hnone]
      exact hclosed

/-! ## Load profiles -/

/-- A load profile job closes its connection on every way out. -/
theorem serveProfile_owned (job : DueLoadProfileJob) {candidate : PooledConnection}
    {s : CallHome ω} {kept : Multiset Nat} (h : s.owned = candidate.connNo ::ₘ kept) :
    (serveProfile E serial password candidate job s).2.owned = kept := by
  rw [serveProfile, serve_owned]
  exact runProfile_owned E serial password job h

/-- The load-profile jobs leave owned what was: each closes the connection it finds. -/
theorem runLoadProfileJobs_owned : ∀ (jobs : List DueLoadProfileJob) {s : CallHome ω},
    (runLoadProfileJobs E serial password jobs s).2.owned = s.owned
  | [], s => rfl
  | job :: jobs, s => by
    obtain ⟨found, s₁, hwait, howned⟩ := waitForSibling_run E serial
      { s with begun := s.begun ++ [job.jobId] }
    rw [runLoadProfileJobs, noteBegun, modify_bind_run, bind_ok hwait]
    rcases found with _ | candidate
    · exact (runLoadProfileJobs_owned jobs).trans (howned.trans (Multiset.zero_add _))
    · have hserved := @serveProfile_owned _ E serial password job candidate s₁ _
        (howned.trans (Multiset.singleton_add _ _))
      dsimp only
      rcases hrun : serveProfile E serial password candidate job s₁ with ⟨e | _, s₂⟩
      · rw [hrun] at hserved
        rw [bind_error hrun]
        exact hserved
      · rw [hrun] at hserved
        rw [bind_ok hrun]
        exact (runLoadProfileJobs_owned jobs).trans hserved

/-! ## The event -/

section Event

variable (pc : PooledConnection)

/-- The jobs of an answer release the candidates: the password can be sent, and the one kind of jobs
    that uses them does. -/
def JobsRelease (claimed : ClaimDueJobsResult) (candidates : List PooledConnection)
    (s : CallHome ω) : Prop :=
  ∃ password, encodeAscii claimed.password = .ok password ∧
    (claimed.controlJobs ≠ [] →
      ControlReleases E serial password claimed.controlJobs candidates s) ∧
    (claimed.controlJobs = [] → claimed.jobs ≠ [] →
      ReadReleases E serial password (claimed.jobs.map fun job => (job.obis, job.classId))
        (E.rounds s.shared) candidates s)

/-- If the answer has a job and `pc` is still in the pool, the jobs release what is then taken. -/
def Releases (s : CallHome ω) : Prop :=
  ∀ claimed s₁ others s₂, outside (E.claimDueJobs serial) s = (.ok (some claimed), s₁) →
    ¬ (claimed.jobs = [] ∧ claimed.loadProfileJobs = [] ∧ claimed.controlJobs = []) →
    takeAll pc serial s₁ = (.ok (some others), s₂) →
    JobsRelease E serial claimed (candidatesOf pc others) s₂

/-- The candidates are the connection at hand and the others of its meter, in another order. -/
theorem numbers_candidatesOf (others : List PooledConnection) :
    numbers (candidatesOf pc others) = numbers (pc :: others) := by
  rw [candidatesOf, numbers_cons, numbers_cons]
  refine congrArg _ (Multiset.coe_eq_coe.mpr ?_)
  exact (List.perm_insertionSort _ others).map _

/-- The hand-over takes the connection and the others of its meter, or finds the connection gone and
    takes nothing. -/
theorem takeAll_run (s : CallHome ω) : takeAll pc serial s = (.ok none, s) ∨
    ∃ others s', takeAll pc serial s = (.ok (some others), s') ∧
      s'.owned = numbers (pc :: others) + s.owned := by
  rw [takeAll, gets_bind_run]
  rcases Decidable.em (pc ∈ s.shared.1) with hmem | hgone
  · rw [if_pos hmem, take, modify_bind_run, gets_bind_run]
    obtain ⟨s', hrun, howned⟩ := takeEach_run _ _
    refine .inr ⟨_, s', bind_ok hrun, howned.trans ?_⟩
    rw [Multiset.add_cons, numbers_cons, Multiset.cons_add]
  · rw [if_neg hgone]
    exact .inl rfl

/-- After the jobs of all kinds nothing is owned exactly if they release what they were given. -/
theorem serveJobs_owned (claimed : ClaimDueJobsResult) {candidates : List PooledConnection}
    (hsome : candidates ≠ []) {s : CallHome ω} (h : s.owned = numbers candidates) :
    (serveJobs E serial claimed candidates s).2.owned = 0 ↔
      JobsRelease E serial claimed candidates s := by
  rw [serveJobs, JobsRelease]
  rcases hpassword : encodeAscii claimed.password with e | password
  · rw [lift_error_bind_run, h, numbers_eq_zero]
    exact ⟨fun hnil => absurd hnil hsome, fun ⟨_, hok, _⟩ => nomatch hok⟩
  rw [lift_ok_bind_run]
  have hexists : ∀ {p : Bytes → Prop},
      (∃ word, (Except.ok password : Except Raised Bytes) = .ok word ∧ p word) ↔ p password :=
    fun {p} => ⟨fun ⟨_, hword, hp⟩ => Except.ok.inj hword ▸ hp, fun hp => ⟨_, rfl, hp⟩⟩
  rw [hexists]
  rcases Decidable.em (claimed.controlJobs ≠ []) with hcontrol | hcontrol
  · rw [if_pos hcontrol, runControlJobs_owned E serial password _ _
      (h.trans (Multiset.add_zero _).symm)]
    exact ⟨fun hrun => ⟨fun _ => hrun.2, fun hnil => absurd hnil hcontrol⟩,
      fun hrun => ⟨rfl, hrun.1 hcontrol⟩⟩
  rw [if_neg hcontrol]
  have hlast : ∀ (first : Proc Raised (CallHome ω) Unit),
      ((first >>= fun _ => runLoadProfileJobs E serial password claimed.loadProfileJobs) s).2.owned =
        (first s).2.owned := by
    intro first
    rcases hrun : first s with ⟨e | _, s'⟩
    · rw [bind_error hrun]
    · rw [bind_ok hrun]
      exact runLoadProfileJobs_owned E serial password _
  rcases Decidable.em (claimed.jobs ≠ []) with hjobs | hjobs
  · rw [if_pos hjobs, hlast, runReadJobs_owned E serial password _ _ h]
    exact ⟨fun hrun => ⟨fun hne => absurd hne hcontrol, fun _ _ => hrun⟩,
      fun hrun => hrun.2 (not_not.mp hcontrol) hjobs⟩
  · rw [if_neg hjobs, hlast]
    obtain ⟨s', hclose, howned⟩ := closeAll_run candidates (h.trans (Multiset.add_zero _).symm)
    rw [hclose]
    exact ⟨fun _ => ⟨fun hne => absurd hne hcontrol, fun _ hne => absurd hne hjobs⟩, fun _ => howned⟩

/-- **The event.**  Whatever pool it meets, whatever the backend and the meters answer and whatever
    is raised on the way: on its exit no connection is out of the pool and open iff the event
    releases what it takes. -/
theorem maybeTrigger_releases_iff (pool : List PooledConnection) (around : ω) :
    (maybeTriggerImmediateRead E pc serial { shared := (pool, around) }).2.owned = 0 ↔
      Releases E serial pc { shared := (pool, around) } := by
  have hswallow : (maybeTriggerImmediateRead E pc serial { shared := (pool, around) }).2 =
      (triggerImmediateRead E pc serial { shared := (pool, around) }).2 := by
    rw [maybeTriggerImmediateRead, attempt_bind_run]
    rfl
  rw [hswallow, triggerImmediateRead, Releases]
  rcases hclaim : outside (E.claimDueJobs serial) ({ shared := (pool, around) } : CallHome ω) with
    ⟨e | claimed, s₁⟩
  all_goals have howned₁ : s₁.owned = 0 := congrArg (·.2.owned) hclaim.symm
  · rw [bind_error hclaim]
    exact ⟨fun _ _ _ _ _ h => (nomatch h), fun _ => howned₁⟩
  rw [bind_ok hclaim]
  rcases claimed with _ | claimed
  · exact ⟨fun _ _ _ _ _ h => (nomatch h), fun _ => howned₁⟩
  dsimp only
  rcases Decidable.em (claimed.jobs = [] ∧ claimed.loadProfileJobs = [] ∧ claimed.controlJobs = [])
    with hnone | hsome
  · rw [if_pos hnone]
    refine ⟨fun _ => ?_, fun _ => howned₁⟩
    rintro _ _ _ _ ⟨⟩ hjob _
    exact absurd hnone hjob
  rw [if_neg hsome]
  rcases takeAll_run serial pc s₁ with hgone | ⟨others, s₂, htake, howned₂⟩
  · rw [bind_ok hgone]
    refine ⟨fun _ => ?_, fun _ => howned₁⟩
    rintro _ _ _ _ ⟨⟩ _ htaken
    rw [hgone] at htaken
    cases htaken
  · rw [howned₁, Multiset.add_zero, ← numbers_candidatesOf] at howned₂
    rw [bind_ok htake]
    dsimp only
    have hne : candidatesOf pc others ≠ [] := List.cons_ne_nil _ _
    rw [serveJobs_owned E serial claimed hne howned₂]
    constructor
    · rintro hrelease _ _ _ _ ⟨⟩ _ htaken
      cases htake.symm.trans htaken
      exact hrelease
    · intro h
      exact h claimed s₁ others s₂ rfl hsome htake

end Event

/-! ## A serial number without an address -/

/-- A connection on which nothing ever comes. -/
def silentConnection {σ : Type} : Connection σ where
  socket := .plain {
    recv := fun _ => raise .timeout
    sendall := fun _ => pure ()
    settimeout := fun _ s => s
    time := fun _ => 0
    pending := fun _ => 0
    recv_le := fun _ h => nomatch h
    recv_pending := fun _ => Spends.raise _ _ _
    sendall_pending := fun _ => Spends.pure _ rfl
    settimeout_pending := fun _ _ => Nat.le_refl _ }
  wrap := id
  drainStaleBytes := id
  sleep := fun _ => id

/-- The backend has these relay commands; nothing else happens. -/
def commandsWaiting (controlJobs : List DueControlJob) : Environment Unit where
  connection := fun _ => silentConnection
  claimDueJobs := fun _ => pure (some
    { meterFound := true, password := some "12345678", controlJobs := controlJobs })
  hasInternalSecret := true
  urlopen := fun _ _ => pure true
  fromisoformat := fun _ => none
  rounds := fun _ => 1
  polls := fun _ => 0
  pause := id

/-- The physical address of such a meter does not fit its 14 bits: the exception goes past the
    command, and the second connection of the meter stays open. -/
theorem second_connection_left_open :
    ¬ (maybeTriggerImmediateRead (commandsWaiting [⟨1, "disconnect"⟩]) ⟨2, some "202310030001", 20⟩
      "202310030001" { shared := ([⟨1, some "202310030001", 10⟩, ⟨2, some "202310030001", 20⟩], ()) }
      ).2.owned = 0 := by
  decide

end RiseSun.Gateway
