/-
  Reading a stream up to a mark, and connections that deliver certain bytes and no more.

  1. **`upTo`** — the loop that reads byte by byte until the bytes read have what is looked for
     (`upTo_feeds`), or fails when they are too many (`upTo_tooLong`) or the stream ends without it
     (`upTo_ends`).  What is looked for may be a terminator, whose last byte comes nowhere before it.

  2. **`Delivery`** — a connection over which certain bytes come and then nothing more; the wire is one,
     however its schedule cuts them (`Wire.delivery`).
-/
import Mathlib.Data.List.Infix
import RiseSun.Lib.Stream

namespace RiseSun.Stream

variable {ε σ : Type} {recv : Nat → Proc SocketError σ Bytes}
  {failed : Bytes → Option SocketError → ε} {R : σ → Bytes → Prop}

/-! ## Reading up to a mark -/

/-- The rounds of `upTo`; with `fuel` more than what fits the last round is one that raises. -/
def upToLoop (recv : Nat → Proc SocketError σ Bytes) (failed : Bytes → Option SocketError → ε)
    (tooLong : Bytes → ε) (found : Bytes → Bool) (maxLen : Nat) : Nat → Bytes → Proc ε σ Bytes
  | 0, buf => Proc.raise (tooLong buf)
  | fuel + 1, buf =>
    if found buf then pure buf
    else do
      match ← Proc.attempt (recv 1) with
      | .error e => Proc.raise (failed buf (some e))
      | .ok [] => Proc.raise (failed buf none)
      | .ok (b :: bs) =>
        if maxLen < (buf ++ b :: bs).length then Proc.raise (tooLong (buf ++ b :: bs))
        else upToLoop recv failed tooLong found maxLen fuel (buf ++ b :: bs)

/-- Read byte by byte until the bytes read have what is looked for, at most `maxLen` of them. -/
def upTo (recv : Nat → Proc SocketError σ Bytes) (failed : Bytes → Option SocketError → ε)
    (tooLong : Bytes → ε) (found : Bytes → Bool) (maxLen : Nat) : Proc ε σ Bytes :=
  upToLoop recv failed tooLong found maxLen (maxLen + 1) []

/-- Nothing comes any more: a receive fails, or the peer has closed. -/
def Ends (recv : Nat → Proc SocketError σ Bytes) (R : σ → Bytes → Prop) : Prop :=
  ∀ n s, R s [] → (∃ s', recv n s = (.ok [], s')) ∨ ∃ e s', recv n s = (.error e, s')

/-- A receive at the end leads to what is made of a failure or of a closed connection. -/
theorem Ends.receive (h : Ends recv R) {α : Type} {f : Except SocketError Bytes → Proc ε σ α} {n : Nat}
    {s : σ} (hR : R s []) (hclosed : ∀ s', ∃ e s'', f (.ok []) s' = (.error e, s''))
    (hfailed : ∀ e s', ∃ e' s'', f (.error e) s' = (.error e', s'')) :
    ∃ e s', (Proc.attempt (recv n) >>= f) s = (.error e, s') := by
  rw [Proc.attempt_bind_run]
  rcases h n s hR with ⟨s', hrecv⟩ | ⟨e, s', hrecv⟩
  · rw [hrecv]
    exact hclosed s'
  · rw [hrecv]
    exact hfailed e s'

section UpTo

variable {tooLong : Bytes → ε} {found : Bytes → Bool} {maxLen : Nat}

/-- A round of a receive that feeds takes one byte. -/
theorem feeds_one (h : Feeds recv R) {s : σ} {b : UInt8} {bs : Bytes} (hR : R s (b :: bs)) :
    ∃ s', recv 1 s = (.ok [b], s') ∧ R s' bs := by
  obtain ⟨k, s', hk, hrecv, hR'⟩ := h 1 s b bs Nat.zero_lt_one hR
  obtain rfl : k = 0 := by omega
  exact ⟨s', hrecv, hR'⟩

/-- The loop goes through a front part that does not have what is looked for before its end, and stops
    only where the limit is passed. -/
theorem upToLoop_steps (h : Feeds recv R) (rest : Bytes) :
    ∀ (q : Bytes) (fuel : Nat) (buf : Bytes) (s : σ), buf.length ≤ maxLen →
      maxLen < buf.length + fuel → (∀ p, p <+: q → p ≠ q → found (buf ++ p) = false) →
      R s (q ++ rest) →
      (buf.length + q.length ≤ maxLen ∧ ∃ fuel' s', R s' rest ∧
        upToLoop recv failed tooLong found maxLen fuel buf s =
          upToLoop recv failed tooLong found maxLen (fuel' + 1) (buf ++ q) s') ∨
      (maxLen < buf.length + q.length ∧
        ∃ e s', upToLoop recv failed tooLong found maxLen fuel buf s = (.error e, s')) := by
  intro q
  induction q with
  | nil =>
    intro fuel buf s hbuf hfuel _ hR
    obtain ⟨fuel, rfl⟩ : ∃ m, fuel = m + 1 := ⟨fuel - 1, by omega⟩
    refine .inl ⟨hbuf, fuel, s, hR, ?_⟩
    rw [List.append_nil]
  | cons b q ih =>
    intro fuel buf s hbuf hfuel hfirst hR
    obtain ⟨fuel, rfl⟩ : ∃ m, fuel = m + 1 := ⟨fuel - 1, by omega⟩
    have hnone : found buf = false := by
      have hempty := hfirst [] List.nil_prefix (List.cons_ne_nil b q).symm
      rwa [List.append_nil] at hempty
    have happend : ∀ p : Bytes, buf ++ b :: p = (buf ++ [b]) ++ p := fun p => by
      rw [List.append_assoc, List.singleton_append]
    have hlen : (buf ++ [b]).length = buf.length + 1 := by
      rw [List.length_append, List.length_singleton]
    have hround : ∃ s', R s' (q ++ rest) ∧
        upToLoop recv failed tooLong found maxLen (fuel + 1) buf s =
          if maxLen < (buf ++ [b]).length then (.error (tooLong (buf ++ [b])), s')
          else upToLoop recv failed tooLong found maxLen fuel (buf ++ [b]) s' := by
      obtain ⟨s', hrecv, hR'⟩ := feeds_one h hR
      refine ⟨s', hR', ?_⟩
      rw [upToLoop, if_neg (ne_true_of_eq_false hnone), Proc.attempt_bind_run, hrecv]
      dsimp only
      split
      · rfl
      · rfl
    obtain ⟨s', hR', hround⟩ := hround
    rw [hround, List.length_cons]
    split
    next hlong => exact .inr ⟨by omega, _, s', rfl⟩
    next hfits =>
      rw [happend q, show buf.length + (q.length + 1) = (buf ++ [b]).length + q.length by omega]
      refine ih fuel (buf ++ [b]) s' (by omega) (by omega) (fun p hp hne => ?_) hR'
      rw [← happend]
      exact hfirst (b :: p) ((List.prefix_cons_inj b).mpr hp) fun heq => hne (List.cons.inj heq).2

theorem upTo_steps (h : Feeds recv R) (maxLen : Nat) {q rest : Bytes} {s : σ}
    (hfirst : ∀ p, p <+: q → p ≠ q → found p = false) (hR : R s (q ++ rest)) :
    (q.length ≤ maxLen ∧ ∃ fuel s', R s' rest ∧
      upTo recv failed tooLong found maxLen s =
        upToLoop recv failed tooLong found maxLen (fuel + 1) q s') ∨
    (maxLen < q.length ∧ ∃ e s', upTo recv failed tooLong found maxLen s = (.error e, s')) := by
  rw [← Nat.zero_add q.length]
  exact upToLoop_steps h rest q (maxLen + 1) [] s (Nat.zero_le maxLen) (by simp) hfirst hR

/-- However the stream is cut, the first front part that has what is looked for is read. -/
theorem upTo_feeds (h : Feeds recv R) {q rest : Bytes} {s : σ} (hfits : q.length ≤ maxLen)
    (hfound : found q = true) (hfirst : ∀ p, p <+: q → p ≠ q → found p = false)
    (hR : R s (q ++ rest)) :
    ∃ s', upTo recv failed tooLong found maxLen s = (.ok q, s') ∧ R s' rest := by
  rcases upTo_steps h maxLen hfirst hR with ⟨-, fuel, s', hR', hloop⟩ | ⟨hlong, -⟩
  · refine ⟨s', ?_, hR'⟩
    rw [hloop, upToLoop, if_pos hfound]
    rfl
  · omega

/-- If it is too long, the reading fails. -/
theorem upTo_tooLong (h : Feeds recv R) {q rest : Bytes} {s : σ} (hlong : maxLen < q.length)
    (hfirst : ∀ p, p <+: q → p ≠ q → found p = false) (hR : R s (q ++ rest)) :
    ∃ e s', upTo recv failed tooLong found maxLen s = (.error e, s') := by
  rcases upTo_steps h maxLen hfirst hR with ⟨hfits, -⟩ | ⟨-, hraise⟩
  · omega
  · exact hraise

/-- A stream that ends without what is looked for makes the reading fail. -/
theorem upTo_ends (h : Feeds recv R) (hends : Ends recv R) {q : Bytes} {s : σ}
    (hnone : ∀ p, p <+: q → found p = false) (hR : R s q) :
    ∃ e s', upTo recv failed tooLong found maxLen s = (.error e, s') := by
  rw [← List.append_nil q] at hR
  rcases upTo_steps h maxLen (fun p hp _ => hnone p hp) hR with
    ⟨-, fuel, s', hR', hloop⟩ | ⟨-, hraise⟩
  · have hq : found q = false := hnone q (List.prefix_refl q)
    rw [hloop, upToLoop, if_neg (ne_true_of_eq_false hq)]
    exact hends.receive hR' (fun s'' => ⟨_, s'', rfl⟩) fun _ s'' => ⟨_, s'', rfl⟩
  · exact hraise

/-! ### A terminator -/

/-- A terminator is not found before a byte of it is. -/
theorem not_infix_of_not_mem {b : UInt8} {q t p : Bytes} (hb : b ∈ t) (hq : b ∉ q)
    (hp : p <+: q ++ [b]) (hne : p ≠ q ++ [b]) : ¬ t <:+: p := by
  intro hfound
  rcases List.prefix_concat_iff.mp hp with rfl | hp
  · exact hne rfl
  · exact hq (hp.subset (hfound.subset hb))

variable {q t rest : Bytes} {b : UInt8} {s : σ}

/-- Reading ends with the terminator, if its last byte comes nowhere before. -/
theorem upTo_terminator_feeds (h : Feeds recv R) (ht : t <:+ q ++ [b]) (hb : b ∈ t) (hq : b ∉ q)
    (hfits : (q ++ [b]).length ≤ maxLen) (hR : R s (q ++ b :: rest)) :
    ∃ s', upTo recv failed tooLong (fun buf => decide (t <:+: buf)) maxLen s = (.ok (q ++ [b]), s') ∧
      R s' rest := by
  refine upTo_feeds h hfits (decide_eq_true ht.isInfix)
    (fun p hp hne => decide_eq_false (not_infix_of_not_mem hb hq hp hne)) ?_
  rwa [List.append_assoc]

theorem upTo_terminator_tooLong (h : Feeds recv R) (hb : b ∈ t) (hq : b ∉ q)
    (hlong : maxLen < (q ++ [b]).length) (hR : R s (q ++ b :: rest)) :
    ∃ e s', upTo recv failed tooLong (fun buf => decide (t <:+: buf)) maxLen s = (.error e, s') := by
  have hR' : R s (q ++ [b] ++ rest) := by rwa [List.append_assoc]
  exact upTo_tooLong h hlong
    (fun p hp hne => decide_eq_false (not_infix_of_not_mem hb hq hp hne)) hR'

theorem upTo_terminator_ends (h : Feeds recv R) (hends : Ends recv R) (hb : b ∈ t) (hq : b ∉ q)
    (hR : R s q) :
    ∃ e s', upTo recv failed tooLong (fun buf => decide (t <:+: buf)) maxLen s = (.error e, s') :=
  upTo_ends h hends
    (fun _ hp => decide_eq_false fun hfound => hq (hp.subset (hfound.subset hb))) hR

/-- Where nothing is left to read, reading at least one byte fails. -/
theorem exactly_ends (hends : Ends recv R) {n : Nat} {s : σ} (hn : 0 < n) (hR : R s []) :
    ∃ e s', exactly recv failed n s = (.error e, s') := by
  obtain ⟨n, rfl⟩ : ∃ m, n = m + 1 := ⟨n - 1, by omega⟩
  rw [exactly, exactlyLoop, if_pos (by simp)]
  exact hends.receive hR (fun s' => ⟨_, s', rfl⟩) fun _ s' => ⟨_, s', rfl⟩

end UpTo

/-! ## Connections -/

/-- `R s bytes`: the bytes still to come are `bytes`, then nothing more; what the client sends changes
    nothing about them. -/
structure Delivery (S : Socket σ) (R : σ → Bytes → Prop) : Prop where
  feeds : Feeds S.recv R
  ends : Ends S.recv R
  sends : ∀ data s bytes, R s bytes → ∃ s', S.sendall data s = (.ok (), s') ∧ R s' bytes

end RiseSun.Stream

namespace RiseSun.Wire

/-- Each chunk comes in time for the receive that waits for it; behind the end nothing comes. -/
def OnTime (timeout : ℚ) : ℚ → List (ℚ × RxEvent) → Prop
  | _, [] => True
  | now, (t, .data _ _) :: later => t ≤ now + timeout ∧ OnTime timeout (max now t) later
  | _, (_, .eof) :: later | _, (_, .reset) :: later => ∀ p ∈ later, p.2.bytes = []

instance (timeout : ℚ) : ∀ now incoming, Decidable (OnTime timeout now incoming)
  | _, [] => isTrue trivial
  | now, (t, .data _ _) :: later =>
    have := instDecidableOnTime timeout (max now t) later
    inferInstanceAs (Decidable (t ≤ now + timeout ∧ OnTime timeout (max now t) later))
  | _, (_, .eof) :: later | _, (_, .reset) :: later =>
    inferInstanceAs (Decidable (∀ p ∈ later, p.2.bytes = []))

/-- The schedule is these bytes, cut in any way, and nothing more. -/
def Delivers (w : Wire) (bytes : Bytes) : Prop := w.stream = bytes ∧ OnTime w.timeout w.now w.incoming

instance (w : Wire) (bytes : Bytes) : Decidable (w.Delivers bytes) :=
  inferInstanceAs (Decidable (w.stream = bytes ∧ OnTime w.timeout w.now w.incoming))

theorem stream_nil_of_bytes {later : List (ℚ × RxEvent)} (h : ∀ p ∈ later, p.2.bytes = []) :
    (later.map fun p => p.2.bytes).flatten = [] := by
  rw [List.flatten_eq_nil_iff]
  intro bytes hbytes
  obtain ⟨p, hp, rfl⟩ := List.mem_map.mp hbytes
  exact h p hp

/-- What is left of a chunk is still in time. -/
theorem OnTime.putBack {timeout now t : ℚ} {rest : Bytes} {later : List (ℚ × RxEvent)}
    (h : OnTime timeout (max now t) later) (ht : t ≤ now + timeout) :
    OnTime timeout (max now t) (Wire.putBack t rest later) := by
  cases rest with
  | nil => exact h
  | cons b bs =>
    refine ⟨?_, ?_⟩
    · rcases le_total t now with hle | hle
      · rwa [max_eq_left hle]
      · rw [max_eq_right hle] at h ⊢
        linarith
    · show OnTime timeout (max (max now t) t) later
      rwa [max_eq_left (le_max_right now t)]

theorem delivers_feeds : Stream.Feeds Wire.recv Delivers := by
  rintro n w b bs hn ⟨hstream, honTime⟩
  obtain ⟨n, rfl⟩ : ∃ m, n = m + 1 := ⟨n - 1, by omega⟩
  rw [stream] at hstream
  rcases hin : w.incoming with _ | ⟨⟨t, _ | _ | _⟩, later⟩ <;> rw [hin] at hstream honTime
  case nil => cases hstream
  case cons.data c cs =>
    obtain ⟨rfl, hbs⟩ := List.cons.inj hstream
    have hbs : bs = cs ++ (later.map fun p => p.2.bytes).flatten := hbs.symm
    have hrest : OnTime w.timeout (max w.now t) (putBack t (cs.drop n) later) :=
      honTime.2.putBack honTime.1
    refine ⟨min n cs.length, { w with
      now := max w.now t, incoming := putBack t (cs.drop n) later }, by omega, ?_, ?_, hrest⟩
    · rw [hbs, List.take_append_of_le_length (Nat.min_le_right _ _), ← List.take_eq_take_min]
      exact recv_data n hin honTime.1
    · rw [hbs, List.drop_append_of_le_length (Nat.min_le_right _ _), ← List.drop_eq_drop_min]
      exact putBack_bytes t (cs.drop n) later
  case cons.eof =>
    rw [List.map_cons, List.flatten_cons, stream_nil_of_bytes honTime] at hstream
    cases hstream
  case cons.reset =>
    rw [List.map_cons, List.flatten_cons, stream_nil_of_bytes honTime] at hstream
    cases hstream

theorem delivers_ends : Stream.Ends Wire.recv Delivers := by
  rintro n w ⟨hstream, -⟩
  rw [stream] at hstream
  rcases recv_cases n w with ⟨t, b, bs, later, hin, -, -⟩ | ⟨t, later, -, hrecv⟩ | ⟨e, now, hrecv⟩
  · rw [hin] at hstream
    cases hstream
  · exact .inl ⟨_, hrecv⟩
  · exact .inr ⟨e, _, hrecv⟩

/-- A peer that sends its schedule whatever it is sent. -/
theorem delivery : Stream.Delivery (wire fun _ => none) Delivers where
  feeds := delivers_feeds
  ends := delivers_ends
  sends data w _ h := ⟨{ w with sent := w.sent ++ [data] }, rfl, h⟩

end RiseSun.Wire
