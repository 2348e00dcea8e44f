/-
  The stream of frames behind the call-home filter: noise and chunking leave no trace.

  1. **Specification** — `Noise` between frames, and the number of echoes it calls for: one for each
     DL/T645 frame and one for each complete three of a MAXIMAL run of zeros (`echoesFrom`).

  2. **Invariant** — `Live f bytes sent`: `bytes` are still to come, on a schedule of chunks cut in
     any way, and `sent` has been sent.

  3. **Layers** — raw receive, exact read, seeking loop, frame reader: one lemma each, which says
     which front part of `bytes` the layer takes and which echoes it adds.  `readFrames_segments`
     is the induction over the frames.
-/
import RiseSun.Gateway.Filter

namespace RiseSun.Gateway

open Proc DlT645FilteringSocket

/-! ## Noise and the echoes it calls for -/

/-- A DL/T645 frame with arbitrary contents. -/
structure DlT645Frame where
  addr : Bytes
  control : UInt8
  data : Bytes
  checksum : UInt8
  addr_length : addr.length = 6
  data_length : data.length < 256

/-- `68 addr[6] 68 C L data[L] CS 16`. -/
def DlT645Frame.bytes (d : DlT645Frame) : Bytes :=
  0x68 :: ((d.addr ++ [0x68, d.control]) ++ ([UInt8.ofNat d.data.length] ++
    (d.data ++ [d.checksum, 0x16])))

inductive Noise
  | zeros (n : Nat)
  | dlt645 (frame : DlT645Frame)

def Noise.bytes : Noise → Bytes
  | .zeros n => List.replicate n 0
  | .dlt645 frame => frame.bytes

def noiseBytes (items : List Noise) : Bytes := (items.map Noise.bytes).flatten

/-- The echoes called for by `items`, the maximal run of zeros that is open at their start having
    `run` zeros already: one for each complete three of a maximal run (a run goes on over adjacent
    `zeros` items and ends at a DL/T645 frame or at the end), one for each DL/T645 frame. -/
def echoesFrom (run : Nat) : List Noise → Nat
  | [] => run / 3
  | .zeros n :: items => echoesFrom (run + n) items
  | .dlt645 _ :: items => run / 3 + 1 + echoesFrom 0 items

/-- Two zeros, then four more: one run of six, two echoes; the last two zeros make none. -/
example (d : DlT645Frame) :
    echoesFrom 0 [.zeros 2, .zeros 4, .dlt645 d, .zeros 2] = 3 := rfl

/-! ## The filter on a stream -/

/-- No peer message calls up an answer: the schedule is all there is. -/
def stillWire : Socket Wire := wire fun _ => none

/-- Every event of the schedule is data, and all of it arrives within one timeout from now on, or
    before the deadline when one is set.  No receive gives up then, whenever it begins to wait. -/
def Timely (f : DlT645FilteringSocket Wire) : Prop :=
  ∀ p ∈ f.sock.incoming, (∃ b bs, p.2 = .data b bs) ∧
    match f.deadline with
    | none => p.1 ≤ f.sock.now + f.sock.timeout
    | some deadline => f.sock.now < deadline ∧ p.1 < deadline

/-- The filter stands before `bytes` and has sent `sent`. -/
structure Live (f : DlT645FilteringSocket Wire) (bytes : Bytes) (sent : List Bytes) : Prop where
  stream : f.sock.stream = bytes
  sent : f.sock.sent = sent
  timely : Timely f

/-- The schedule under a non-empty stream starts with a chunk that starts the stream. -/
theorem Live.head {f : DlT645FilteringSocket Wire} {b : UInt8} {bs : Bytes} {sent : List Bytes}
    (h : Live f (b :: bs) sent) :
    ∃ t cs later, f.sock.incoming = (t, .data b cs) :: later ∧
      bs = cs ++ (later.map fun p => p.2.bytes).flatten := by
  have hstream := h.stream
  unfold Wire.stream at hstream
  cases hin : f.sock.incoming with
  | nil =>
    rw [hin] at hstream
    cases hstream
  | cons p later =>
    obtain ⟨⟨c, cs, hp⟩, _⟩ := h.timely p (by rw [hin]; exact List.mem_cons_self ..)
    rw [hin, List.map_cons, List.flatten_cons, hp] at hstream
    obtain ⟨hc, hcs⟩ := List.cons.inj hstream
    subst hc
    refine ⟨p.1, cs, later, ?_, hcs.symm⟩
    rw [← hp]

theorem mem_putBack {t : ℚ} {rest : Bytes} {later : List (ℚ × RxEvent)} {p : ℚ × RxEvent}
    (h : p ∈ Wire.putBack t rest later) : (p.1 = t ∧ ∃ b bs, p.2 = .data b bs) ∨ p ∈ later := by
  rcases List.mem_append.mp h with h | h
  · cases rest with
    | nil => cases h
    | cons b bs =>
      rw [RxEvent.ofBytes, List.map_singleton, List.mem_singleton] at h
      subst h
      exact .inl ⟨rfl, b, bs, rfl⟩
  · exact .inr h

/-- After a receive: the clock has moved to the arrival, the rest of the chunk is put back. -/
def received (f : DlT645FilteringSocket Wire) (timeout t : ℚ) (rest : Bytes)
    (later : List (ℚ × RxEvent)) : DlT645FilteringSocket Wire :=
  { f with sock := { f.sock with
      timeout := timeout, now := max f.sock.now t, incoming := Wire.putBack t rest later } }

/-- The schedule stays timely: the clock moves no further than an arrival that was in time. -/
theorem Timely.received {f : DlT645FilteringSocket Wire} {timeout t : ℚ} {b : UInt8}
    {cs rest : Bytes} {later : List (ℚ × RxEvent)} (h : Timely f)
    (hin : f.sock.incoming = (t, .data b cs) :: later)
    (htimeout : f.deadline = none → timeout = f.sock.timeout) :
    Timely (received f timeout t rest later) := by
  have hfirst := (h (t, .data b cs) (by rw [hin]; exact List.mem_cons_self ..)).2
  intro p hp
  have hp' : (p.1 = t ∧ ∃ b bs, p.2 = .data b bs) ∨ p ∈ later := mem_putBack hp
  have hdata : ∃ b bs, p.2 = .data b bs := by
    rcases hp' with ⟨-, hdata⟩ | hmem
    · exact hdata
    · exact (h p (by rw [hin]; exact List.mem_cons_of_mem _ hmem)).1
  refine ⟨hdata, ?_⟩
  show match f.deadline with
    | none => p.1 ≤ max f.sock.now t + timeout
    | some deadline => max f.sock.now t < deadline ∧ p.1 < deadline
  cases hd : f.deadline with
  | none =>
    rw [hd] at hfirst
    rw [htimeout hd]
    have hmax : f.sock.now ≤ max f.sock.now t := le_max_left _ _
    rcases hp' with ⟨ht, -⟩ | hmem
    · rw [ht]
      exact le_trans hfirst (by linarith)
    · have hin' := (h p (by rw [hin]; exact List.mem_cons_of_mem _ hmem)).2
      rw [hd] at hin'
      exact le_trans hin' (by linarith)
  | some deadline =>
    rw [hd] at hfirst
    refine ⟨max_lt hfirst.1 hfirst.2, ?_⟩
    rcases hp' with ⟨ht, -⟩ | hmem
    · rw [ht]
      exact hfirst.2
    · have hin' := (h p (by rw [hin]; exact List.mem_cons_of_mem _ hmem)).2
      rw [hd] at hin'
      exact hin'.2

/-- The raw receive of the filter, with and without a deadline. -/
theorem rawRecv_run {f : DlT645FilteringSocket Wire} {t : ℚ} {b : UInt8} {cs : Bytes}
    {later : List (ℚ × RxEvent)} (n : Nat) (h : Timely f)
    (hin : f.sock.incoming = (t, .data b cs) :: later) :
    ∃ timeout, (f.deadline = none → timeout = f.sock.timeout) ∧
      rawRecv stillWire (n + 1) f =
        (.ok (b :: cs.take n), received f timeout t (cs.drop n) later) := by
  have hfirst := (h (t, .data b cs) (by rw [hin]; exact List.mem_cons_self ..)).2
  unfold rawRecv
  rw [gets_bind_run]
  cases hd : f.deadline with
  | none =>
    rw [hd] at hfirst
    refine ⟨f.sock.timeout, fun _ => rfl, ?_⟩
    have hrun := Wire.recv_data n hin hfirst
    show DlT645FilteringSocket.inner (Wire.recv (n + 1)) f = _
    rw [DlT645FilteringSocket.inner, hrun]
    rfl
  | some deadline =>
    rw [hd] at hfirst
    refine ⟨deadline - f.sock.now, (fun hnone => nomatch hnone), ?_⟩
    have hrun := Wire.recv_data (w := { f.sock with timeout := deadline - f.sock.now }) n hin
      (by show t ≤ f.sock.now + (deadline - f.sock.now); linarith [hfirst.2])
    dsimp only
    rw [gets_bind_run, if_neg (by show ¬ deadline - f.sock.now ≤ 0; linarith [hfirst.1]),
      modify_bind_run]
    show DlT645FilteringSocket.inner (Wire.recv (n + 1))
      { f with sock := { f.sock with timeout := deadline - f.sock.now } } = _
    rw [DlT645FilteringSocket.inner, hrun]
    rfl

/-- The raw receive takes a non-empty front part of what is to come. -/
theorem rawRecv_feeds (sent : List Bytes) (seeking : Bool) :
    Stream.Feeds (rawRecv stillWire) (fun f bytes => Live f bytes sent ∧ f.seeking = seeking) := by
  rintro n f b bs hn ⟨hlive, hseek⟩
  obtain ⟨n, rfl⟩ : ∃ m, n = m + 1 := ⟨n - 1, by omega⟩
  obtain ⟨t, cs, later, hin, hbs⟩ := hlive.head
  obtain ⟨timeout, htimeout, hrun⟩ := rawRecv_run n hlive.timely hin
  refine ⟨min n cs.length, received f timeout t (cs.drop n) later, by omega, ?_, ?_, hseek⟩
  · rw [hrun, hbs, List.take_append_of_le_length (Nat.min_le_right _ _), ← List.take_eq_take_min]
  · refine ⟨?_, hlive.sent, hlive.timely.received hin htimeout⟩
    rw [hbs, List.drop_append_of_le_length (Nat.min_le_right _ _), ← List.drop_eq_drop_min]
    exact Wire.putBack_bytes t (cs.drop n) later

/-- An echo is sent, and nothing else changes. -/
theorem echo_run {f : DlT645FilteringSocket Wire} {bytes : Bytes} {sent : List Bytes}
    (h : Live f bytes sent) :
    ∃ f', echoHeartbeat stillWire f = (.ok (), f') ∧ Live f' bytes (sent ++ [heartbeat]) := by
  refine ⟨{ f with sock := { f.sock with sent := f.sock.sent ++ [heartbeat] } }, rfl, ?_⟩
  exact ⟨h.stream, by rw [← h.sent], h.timely⟩

/-! ## The seeking loop over noise -/

/-- One zero: the counter goes up, and every third zero is answered. -/
theorem seekFrame_zero (fuel : Nat) {f : DlT645FilteringSocket Wire} {bytes : Bytes}
    {sent : List Bytes} {z : Nat} (hz : z < 3) (h : Live f (0 :: bytes) sent) :
    ∃ f', seekFrame stillWire (fuel + 1) z f = seekFrame stillWire fuel ((z + 1) % 3) f' ∧
      Live f' bytes (sent ++ List.replicate ((z + 1) / 3) heartbeat) := by
  obtain ⟨k, f1, hk, hrecv, hlive, -⟩ := rawRecv_feeds sent f.seeking 1 f 0 bytes (by omega) ⟨h, rfl⟩
  have hk0 : k = 0 := by omega
  subst hk0
  rw [List.take_zero] at hrecv
  rw [List.drop_zero] at hlive
  rw [seekFrame, bind_ok hrecv]
  dsimp only
  rw [if_pos rfl]
  by_cases h3 : z + 1 = 3
  · obtain ⟨f2, hecho, hlive2⟩ := echo_run hlive
    refine ⟨f2, ?_, ?_⟩
    · rw [if_pos h3, bind_ok hecho, h3]
    · rw [h3]
      exact hlive2
  · refine ⟨f1, ?_, ?_⟩
    · rw [if_neg h3, Nat.mod_eq_of_lt (by omega)]
    · rw [Nat.div_eq_of_lt (by omega), List.replicate_zero, List.append_nil]
      exact hlive

/-- A stretch of `n` zeros, `z` zeros after the last echo. -/
theorem seekFrame_zeros {bytes : Bytes} (n : Nat) :
    ∀ {f : DlT645FilteringSocket Wire} {sent : List Bytes} (fuel z : Nat), z < 3 → n ≤ fuel →
      Live f (List.replicate n 0 ++ bytes) sent →
      ∃ f', seekFrame stillWire fuel z f = seekFrame stillWire (fuel - n) ((z + n) % 3) f' ∧
        Live f' bytes (sent ++ List.replicate ((z + n) / 3) heartbeat) := by
  induction n with
  | zero =>
    intro f sent fuel z hz _ h
    refine ⟨f, ?_, ?_⟩
    · rw [Nat.add_zero, Nat.mod_eq_of_lt hz, Nat.sub_zero]
    · rw [Nat.add_zero, Nat.div_eq_of_lt hz, List.replicate_zero, List.append_nil]
      exact h
  | succ n ih =>
    intro f sent fuel z hz hfuel h
    obtain ⟨fuel, rfl⟩ : ∃ m, fuel = m + 1 := ⟨fuel - 1, by omega⟩
    obtain ⟨f1, hrun1, hlive1⟩ := seekFrame_zero fuel hz h
    obtain ⟨f2, hrun2, hlive2⟩ := ih fuel ((z + 1) % 3) (by omega) (by omega) hlive1
    refine ⟨f2, ?_, ?_⟩
    · rw [hrun1, hrun2]
      congr 1
      · omega
      · omega
    · rw [List.append_assoc, ← List.replicate_add] at hlive2
      have hcount : (z + 1) / 3 + ((z + 1) % 3 + n) / 3 = (z + (n + 1)) / 3 := by omega
      rwa [hcount] at hlive2

/-- An exact raw read takes exactly its bytes. -/
theorem rawRecvExact_run {f : DlT645FilteringSocket Wire} {q bytes : Bytes} {sent : List Bytes}
    (h : Live f (q ++ bytes) sent) :
    ∃ f', rawRecvExact stillWire q.length f = (.ok q, f') ∧ Live f' bytes sent := by
  obtain ⟨f', hrun, hlive, -⟩ :=
    Stream.exactly_feeds rawRecvFailed (rawRecv_feeds sent f.seeking) (q := q) ⟨h, rfl⟩
  exact ⟨f', hrun, hlive⟩

/-- The rest of a DL/T645 frame is discarded, whatever its contents are. -/
theorem discard_run (d : DlT645Frame) {f : DlT645FilteringSocket Wire} {bytes : Bytes}
    {sent : List Bytes} (h : Live f (d.bytes.tail ++ bytes) sent) :
    ∃ addr f', discardOneDlt645Frame stillWire f = (.ok addr, f') ∧ Live f' bytes sent := by
  have h8 : (d.addr ++ [0x68, d.control]).length = 8 := by
    rw [List.length_append, d.addr_length]
    rfl
  have hlen : (([UInt8.ofNat d.data.length] : Bytes).headD 0).toNat + 2 =
      (d.data ++ [d.checksum, 0x16]).length := by
    have := d.data_length
    simp only [List.headD_cons, UInt8.toNat_ofNat', List.length_append, List.length_cons,
      List.length_nil]
    omega
  have hbytes : d.bytes.tail ++ bytes = (d.addr ++ [0x68, d.control]) ++
      ([UInt8.ofNat d.data.length] ++ ((d.data ++ [d.checksum, 0x16]) ++ bytes)) := by
    simp only [DlT645Frame.bytes, List.tail_cons, List.append_assoc]
  rw [hbytes] at h
  obtain ⟨f1, hrun1, h1⟩ := rawRecvExact_run h
  obtain ⟨f2, hrun2, h2⟩ := rawRecvExact_run h1
  obtain ⟨f3, hrun3, h3⟩ := rawRecvExact_run h2
  rw [h8] at hrun1
  rw [List.length_singleton] at hrun2
  rw [← hlen] at hrun3
  refine ⟨(d.addr ++ [0x68, d.control]).take 6, f3, ?_, h3⟩
  rw [discardOneDlt645Frame, bind_ok hrun1, bind_ok hrun2, bind_ok hrun3]
  rfl

/-- A DL/T645 frame is dropped and answered; the run of zeros before it is over. -/
theorem seekFrame_dlt645 (fuel z : Nat) (d : DlT645Frame) {f : DlT645FilteringSocket Wire}
    {bytes : Bytes} {sent : List Bytes} (h : Live f (d.bytes ++ bytes) sent) :
    ∃ f', seekFrame stillWire (fuel + 1) z f = seekFrame stillWire fuel 0 f' ∧
      Live f' bytes (sent ++ [heartbeat]) := by
  obtain ⟨k, f1, hk, hrecv, hlive, -⟩ :=
    rawRecv_feeds sent f.seeking 1 f dlt645Start (d.bytes.tail ++ bytes) (by omega) ⟨h, rfl⟩
  have hk0 : k = 0 := by omega
  subst hk0
  rw [List.take_zero] at hrecv
  rw [List.drop_zero] at hlive
  obtain ⟨addr, f2, hdiscard, hlive2⟩ := discard_run d hlive
  obtain ⟨f3, hecho, hlive3⟩ := echo_run hlive2
  refine ⟨f3, ?_, hlive3⟩
  rw [seekFrame, bind_ok hrecv]
  dsimp only
  rw [if_neg (by decide), if_pos rfl, bind_ok hdiscard, bind_ok hecho]

/-- **All the noise before a frame.**  `run` zeros of the open maximal run are counted already,
    `run / 3` echoes for them are sent. -/
theorem seekFrame_noise {bytes : Bytes} (items : List Noise) :
    ∀ {f : DlT645FilteringSocket Wire} {sent : List Bytes} (fuel run : Nat),
      (noiseBytes items).length < fuel → Live f (noiseBytes items ++ bytes) sent →
      ∃ f' fuel' z echoes, seekFrame stillWire fuel (run % 3) f = seekFrame stillWire fuel' z f' ∧
        0 < fuel' ∧ run / 3 + echoes = echoesFrom run items ∧
        Live f' bytes (sent ++ List.replicate echoes heartbeat) := by
  induction items with
  | nil =>
    intro f sent fuel run hfuel h
    refine ⟨f, fuel, run % 3, 0, rfl, by omega, rfl, ?_⟩
    rw [List.replicate_zero, List.append_nil]
    exact h
  | cons item items ih =>
    intro f sent fuel run hfuel h
    have hcons : noiseBytes (item :: items) = item.bytes ++ noiseBytes items := rfl
    rw [hcons, List.append_assoc] at h
    rw [hcons, List.length_append] at hfuel
    cases item with
    | zeros n =>
      simp only [Noise.bytes, List.length_replicate] at hfuel
      obtain ⟨f1, hrun1, h1⟩ := seekFrame_zeros n fuel (run % 3) (by omega) (by omega) h
      have hmod : (run % 3 + n) % 3 = (run + n) % 3 := by omega
      rw [hmod] at hrun1
      obtain ⟨f2, fuel', z, echoes, hrun2, hpos, hcount, h2⟩ :=
        ih (fuel - n) (run + n) (by omega) h1
      refine ⟨f2, fuel', z, (run % 3 + n) / 3 + echoes, hrun1.trans hrun2, hpos, ?_, ?_⟩
      · show run / 3 + ((run % 3 + n) / 3 + echoes) = echoesFrom (run + n) items
        omega
      · rwa [List.replicate_add, ← List.append_assoc]
    | dlt645 d =>
      obtain ⟨fuel, rfl⟩ : ∃ m, fuel = m + 1 := ⟨fuel - 1, by omega⟩
      obtain ⟨f1, hrun1, h1⟩ := seekFrame_dlt645 fuel (run % 3) d h
      have hlen : 0 < d.bytes.length := by
        rw [DlT645Frame.bytes, List.length_cons]
        omega
      obtain ⟨f2, fuel', z, echoes, hrun2, hpos, hcount, h2⟩ :=
        ih fuel 0 (by simp only [Noise.bytes] at hfuel; omega) h1
      refine ⟨f2, fuel', z, 1 + echoes, hrun1.trans hrun2, hpos, ?_, ?_⟩
      · show run / 3 + (1 + echoes) = run / 3 + 1 + echoesFrom 0 items
        omega
      · rwa [List.replicate_add, ← List.append_assoc]

/-! ## The frame reader -/

/-- The first byte of a frame ends the search. -/
theorem seekFrame_flag (fuel z : Nat) {f : DlT645FilteringSocket Wire} {bytes : Bytes}
    {sent : List Bytes} (h : Live f (flag :: bytes) sent) :
    ∃ f', seekFrame stillWire (fuel + 1) z f = (.ok [flag], f') ∧ f'.seeking = false ∧
      Live f' bytes sent := by
  obtain ⟨k, f1, hk, hrecv, hlive, -⟩ :=
    rawRecv_feeds sent f.seeking 1 f flag bytes (by omega) ⟨h, rfl⟩
  have hk0 : k = 0 := by omega
  subst hk0
  rw [List.take_zero] at hrecv
  rw [List.drop_zero] at hlive
  refine ⟨{ f1 with seeking := false }, ?_, rfl, hlive.stream, hlive.sent, hlive.timely⟩
  rw [seekFrame, bind_ok hrecv]
  dsimp only
  rw [if_neg (by decide), if_neg (by decide)]
  rfl

/-- While seeking, a receive skips the noise and returns the flag. -/
theorem recv_seeking (items : List Noise) {f : DlT645FilteringSocket Wire} {bytes : Bytes}
    {sent : List Bytes} (n : Nat) (hseek : f.seeking = true)
    (h : Live f (noiseBytes items ++ flag :: bytes) sent) :
    ∃ f', recv stillWire n f = (.ok [flag], f') ∧ f'.seeking = false ∧
      Live f' bytes (sent ++ List.replicate (echoesFrom 0 items) heartbeat) := by
  have hstream : (noiseBytes items ++ flag :: bytes).length ≤ stillWire.pending f.sock := by
    rw [← h.stream, Wire.stream, List.length_flatten, List.map_map]
    exact Nat.le_add_right _ _
  obtain ⟨f1, fuel', z, echoes, hrun, hpos, hcount, h1⟩ :=
    seekFrame_noise items (stillWire.pending f.sock + 1) 0
      (by rw [List.length_append] at hstream; omega) h
  obtain ⟨fuel', rfl⟩ : ∃ m, fuel' = m + 1 := ⟨fuel' - 1, by omega⟩
  obtain ⟨f2, hflag, hseek2, h2⟩ := seekFrame_flag fuel' z h1
  refine ⟨f2, ?_, hseek2, ?_⟩
  · rw [recv, gets_bind_run, hseek, if_pos rfl, gets_bind_run]
    exact hrun.trans hflag
  · have hzero : echoes = echoesFrom 0 items := by omega
    rwa [hzero] at h2

/-- Inside a frame the filter passes everything through. -/
theorem recv_feeds (sent : List Bytes) :
    Stream.Feeds (filtering stillWire).recv
      (fun f bytes => Live f bytes sent ∧ f.seeking = false) := by
  rintro n f b bs hn ⟨hlive, hseek⟩
  obtain ⟨k, f', hk, hrecv, hlive', hseek'⟩ := rawRecv_feeds sent false n f b bs hn ⟨hlive, hseek⟩
  refine ⟨k, f', hk, ?_, hlive', hseek'⟩
  show recv stillWire n f = _
  rw [recv, gets_bind_run, hseek, if_neg (by decide)]
  exact hrecv

/-- An exact read inside a frame takes the next bytes of the stream, without looking for a new
    frame. -/
theorem recvExact_run {f : DlT645FilteringSocket Wire} {q bytes : Bytes} {sent : List Bytes}
    (hseek : f.seeking = false) (h : Live f (q ++ bytes) sent) :
    ∃ f', recvExact (filtering stillWire) q.length f = (.ok q, f') ∧ f'.seeking = false ∧
      Live f' bytes sent := by
  obtain ⟨f', hrun, hlive, hseek'⟩ :=
    Stream.exactly_feeds recvExactFailed (recv_feeds sent) (q := q) ⟨h, hseek⟩
  exact ⟨f', hrun, hseek', hlive⟩

/-- One call of the frame reader: the noise is skipped and answered, the frame is returned. -/
theorem readFrame_run (items : List Noise) {frame : HdlcFrame} {raw bytes : Bytes}
    {f : DlT645FilteringSocket Wire} {sent : List Bytes} (hraw : frame.encode = .ok raw)
    (hlen : raw.length ≤ 2047 + 2) (h : Live f (noiseBytes items ++ (raw ++ bytes)) sent) :
    ∃ f', readFrameFromTransport (filtering stillWire) f = (.ok raw, f') ∧
      Live f' bytes (sent ++ List.replicate (echoesFrom 0 items) heartbeat) := by
  obtain ⟨format, rest, hshape, hformat, hparts⟩ :=
    readFrame_parts (filtering stillWire) hraw hlen
  -- the first byte, found behind the noise
  have h0 : Live { f with seeking := true }
      (noiseBytes items ++ flag :: (format ++ (rest ++ bytes))) sent := by
    refine ⟨?_, h.sent, h.timely⟩
    rw [← List.append_assoc format, ← List.cons_append, ← hshape]
    exact h.stream
  obtain ⟨f1, hrecv, hseek1, h1⟩ := recv_seeking items 1 rfl h0
  have hfirst : recvExact (filtering stillWire) 1 { f with seeking := true } = (.ok [flag], f1) := by
    have hrecv' : (filtering stillWire).recv (1 - ([] : Bytes).length) { f with seeking := true } =
        (.ok [flag], f1) := hrecv
    rw [recvExact, Stream.exactly, Stream.exactlyLoop, if_pos (by decide), attempt_bind_run, hrecv']
    rfl
  -- the frame format and the rest of the frame
  obtain ⟨f2, hrun2, hseek2, h2⟩ := recvExact_run hseek1 h1
  obtain ⟨f3, hrun3, _, h3⟩ := recvExact_run hseek2 h2
  exact ⟨f3, hparts rfl hfirst hrun2 hrun3, h3⟩

/-! ## A whole session -/

/-- An encoded frame with the noise before it. -/
structure Segment where
  noise : List Noise
  frame : HdlcFrame
  raw : Bytes
  encoded : frame.encode = .ok raw
  short : raw.length ≤ 2047 + 2

def Segment.bytes (seg : Segment) : Bytes := noiseBytes seg.noise ++ seg.raw

def Segment.echoes (seg : Segment) : Nat := echoesFrom 0 seg.noise

theorem readFrames_segments (segments : List Segment) (rest : Bytes) :
    ∀ (f : DlT645FilteringSocket Wire) (sent : List Bytes),
      Live f ((segments.map Segment.bytes).flatten ++ rest) sent →
      ∃ f', readFrames (filtering stillWire) segments.length f =
          (.ok (segments.map Segment.raw), f') ∧
        Live f' rest (sent ++ List.replicate (segments.map Segment.echoes).sum heartbeat) := by
  induction segments with
  | nil =>
    intro f sent h
    refine ⟨f, rfl, ?_⟩
    rw [List.map_nil, List.sum_nil, List.replicate_zero, List.append_nil]
    exact h
  | cons seg segments ih =>
    intro f sent h
    rw [List.map_cons, List.flatten_cons, Segment.bytes, List.append_assoc, List.append_assoc] at h
    obtain ⟨f1, hrun1, h1⟩ := readFrame_run seg.noise seg.encoded seg.short h
    obtain ⟨f2, hrun2, h2⟩ := ih f1 _ h1
    refine ⟨f2, ?_, ?_⟩
    · rw [List.length_cons, readFrames, bind_ok hrun1, bind_ok hrun2]
      rfl
    · rw [List.map_cons, List.sum_cons, List.replicate_add, ← List.append_assoc]
      exact h2

/-- **Frame stream transparency.**  However noise is put between encoded frames and however the
    stream is cut into chunks, the frame reader over the filter returns exactly the frames, leaves
    exactly what follows them, and has meanwhile sent exactly the echoes the noise calls for. -/
theorem frameStream_transparent (segments : List Segment) (rest : Bytes)
    (f : DlT645FilteringSocket Wire)
    (hstream : f.sock.stream = (segments.map Segment.bytes).flatten ++ rest) (htimely : Timely f) :
    ∃ f', readFrames (filtering stillWire) segments.length f =
        (.ok (segments.map Segment.raw), f') ∧
      f'.sock.stream = rest ∧
      f'.sock.sent = f.sock.sent ++
        List.replicate (segments.map Segment.echoes).sum heartbeat := by
  obtain ⟨f', hrun, h⟩ := readFrames_segments segments rest f f.sock.sent ⟨hstream, rfl, htimely⟩
  exact ⟨f', hrun, h.stream, h.sent⟩

/-- Four zeros and a DL/T645 frame full of flags before a SNRM frame, cut into three chunks. -/
theorem frameStream_transparent_announced :
    ∃ f', readFrames (filtering stillWire) 1
        { sock := { timeout := 5, incoming := [(1, .data 0 [0, 0]),
          (2, .data 0 [0x68, 0x7E, 0, 0, 0, 0, 0, 0x68, 0x91, 1, 0x7E]),
          (4, .data 0x7E [0x16, 0x7E, 0xA0, 0x09, 0x03, 0x21, 0x93, 0x4D, 0xAF, 0x47, 0x0F, 0x7E])]
          : Wire } } =
        (.ok [[0x7E, 0xA0, 0x09, 0x03, 0x21, 0x93, 0x4D, 0xAF, 0x47, 0x0F, 0x7E]], f') ∧
      f'.sock.stream = [] ∧ f'.sock.sent = [] ++ List.replicate 2 heartbeat :=
  frameStream_transparent
    [{ noise := [.zeros 4, .dlt645 ⟨[0x7E, 0, 0, 0, 0, 0], 0x91, [0x7E], 0x7E, rfl, by decide⟩]
       frame := ⟨1, 16, controlSnrm, []⟩
       raw := [0x7E, 0xA0, 0x09, 0x03, 0x21, 0x93, 0x4D, 0xAF, 0x47, 0x0F, 0x7E]
       encoded := by decide +kernel
       short := by decide }] [] _ rfl (by
      intro p hp
      simp only [List.mem_cons, List.not_mem_nil, or_false] at hp
      rcases hp with rfl | rfl | rfl
      · exact ⟨⟨_, _, rfl⟩, by norm_num⟩
      · exact ⟨⟨_, _, rfl⟩, by norm_num⟩
      · exact ⟨⟨_, _, rfl⟩, by norm_num⟩)

end RiseSun.Gateway
