import Folio.Delivery
import Mathlib.Order.Bounds.Defs
import Mathlib.Tactic.SplitIfs
/-!
# What a sink receives

A delivery has two loops, one over chunks and one over what a sink leaves of a chunk. Seen from the sink
there is one: at every call it is offered the bytes from where it stopped to the end of the chunk that it
is in. `Streams` says so, by the number of bytes received, and the two loops are shown to be such a
stream. What holds of every delivery is then read off by going along the calls once.
-/

namespace Folio

namespace Exchange

variable {Offer : Type}

/-- What a call offered; a flush offers nothing. -/
def offered? : Exchange Offer → Option Offer
  | accepted offered _ | interrupted offered | failed offered _ => some offered
  | flushed _ => none

/-- The failure that a call is, if it is one. Taking nothing of an offer is one, an interruption is not. -/
def failure? : Exchange Offer → Option DeliveryFailure
  | accepted _ 0 => some .noProgress
  | accepted _ (_ + 1) | interrupted _ => none
  | failed _ reason => some (.sink reason)
  | flushed failure => failure.map .sink

theorem failure?_eq_none_iff (e : Exchange Offer) :
    e.failure? = none ↔ (∃ offered taken, e = .accepted offered taken ∧ 0 < taken) ∨
      (∃ offered, e = .interrupted offered) ∨ e = .flushed none := by
  rcases e with ⟨offered, taken⟩ | offered | ⟨offered, reason⟩ | failure
  · cases taken with
    | zero => simp [failure?]
    | succ taken => exact ⟨fun _ => .inl ⟨offered, taken + 1, rfl, Nat.succ_pos taken⟩, fun _ => rfl⟩
  · simp [failure?]
  · simp [failure?]
  · simp [failure?]

end Exchange

namespace Delivery

/-- The end of the chunk that a position is in. -/
def chunkEnd (payload : List UInt8) (position : Nat) : Nat :=
  min ((position / chunkSize + 1) * chunkSize) payload.length

/-- The bytes from a position to the end of its chunk. -/
def offerAt (payload : List UInt8) (position : Nat) : List UInt8 :=
  (payload.take (chunkEnd payload position)).drop position

/-- The calls that write a payload from a position on, and how they end. -/
inductive Streams (payload : List UInt8) :
    Nat → List (Exchange (List UInt8)) → Except DeliveryFailure Unit → Prop
  | done : Streams payload payload.length [] (.ok ())
  | interrupted {position : Nat} {rest : List (Exchange (List UInt8))}
      {result : Except DeliveryFailure Unit} (hlt : position < payload.length)
      (hrest : Streams payload position rest result) :
      Streams payload position (.interrupted (offerAt payload position) :: rest) result
  | accepted {position taken : Nat} {rest : List (Exchange (List UInt8))}
      {result : Except DeliveryFailure Unit} (hlt : position < payload.length) (hpositive : 0 < taken)
      (hle : position + taken ≤ chunkEnd payload position)
      (hrest : Streams payload (position + taken) rest result) :
      Streams payload position (.accepted (offerAt payload position) taken :: rest) result
  | refused {position : Nat} (hlt : position < payload.length) :
      Streams payload position [.accepted (offerAt payload position) 0] (.error .noProgress)
  | failed {position : Nat} {reason : String} (hlt : position < payload.length) :
      Streams payload position [.failed (offerAt payload position) reason] (.error (.sink reason))

variable {payload : List UInt8} {position stop : Nat}

/-! ### Chunks -/

theorem lt_chunkEnd (hlt : position < payload.length) : position < chunkEnd payload position := by
  rw [chunkEnd, Nat.lt_min]
  refine ⟨?_, hlt⟩
  unfold chunkSize
  omega

theorem chunkEnd_le_length : chunkEnd payload position ≤ payload.length :=
  Nat.min_le_right _ _

/-- Up to its end a chunk is the same. -/
theorem chunkEnd_of_lt {next : Nat} (hle : position ≤ next) (hlt : next < chunkEnd payload position) :
    chunkEnd payload next = chunkEnd payload position := by
  rw [chunkEnd, Nat.lt_min] at hlt
  rw [chunkEnd, chunkEnd]
  have hsame : next / chunkSize = position / chunkSize := by
    unfold chunkSize at *
    omega
  rw [hsame]

/-- The end of a chunk is the next multiple of the chunk size, or the end of the payload before it. -/
theorem chunkEnd_isLeast (hlt : position < payload.length) :
    IsLeast {n | position < n ∧ (chunkSize ∣ n ∨ n = payload.length)} (chunkEnd payload position) := by
  refine ⟨⟨lt_chunkEnd hlt, ?_⟩, ?_⟩
  · rcases Nat.le_total ((position / chunkSize + 1) * chunkSize) payload.length with hle | hle
    · exact .inl (by rw [chunkEnd, Nat.min_eq_left hle]; exact Nat.dvd_mul_left _ _)
    · exact .inr (by rw [chunkEnd, Nat.min_eq_right hle])
  · rintro n ⟨hn, ⟨k, rfl⟩ | rfl⟩
    · rw [chunkEnd]
      unfold chunkSize at *
      omega
    · exact chunkEnd_le_length

theorem length_offerAt : (offerAt payload position).length = chunkEnd payload position - position := by
  rw [offerAt, List.length_drop, List.length_take, Nat.min_eq_left chunkEnd_le_length]

theorem offerAt_ne_nil (hlt : position < payload.length) : offerAt payload position ≠ [] := by
  have hend := lt_chunkEnd hlt
  rw [← List.length_pos_iff, length_offerAt]
  omega

/-- The beginning of an offer goes on from what was received. -/
theorem take_append_take_offerAt {taken : Nat} (hle : position + taken ≤ chunkEnd payload position) :
    payload.take position ++ (offerAt payload position).take taken = payload.take (position + taken) := by
  rw [offerAt, List.drop_take, List.take_take, Nat.min_eq_left (by omega), List.take_add]

/-! ### One chunk -/

/-- The calls of a delivery lead from a position to another one, from which the stream can go on, or they
are the end of the stream. -/
structure Leads {α : Type} (payload : List UInt8) (position stop : Nat) (d : Delivery α) : Prop where
  goesOn : ∀ value, d.result = .ok value → ∀ rest result, Streams payload stop rest result →
    Streams payload position (d.exchanges ++ rest) result
  ends : ∀ failure, d.result = .error failure → Streams payload position d.exchanges (.error failure)

namespace Leads

variable {α : Type} {value : α} {d : Delivery α}

theorem nil : Leads payload position position (⟨[], .ok value⟩ : Delivery α) :=
  ⟨fun _ _ _ _ hrest => hrest, fun _ h => by cases h⟩

theorem interrupted (hlt : position < payload.length) (hd : Leads payload position stop d) :
    Leads payload position stop ⟨.interrupted (offerAt payload position) :: d.exchanges, d.result⟩ := by
  refine ⟨fun value hvalue rest result hrest => ?_, fun failure hfailure => ?_⟩
  · exact .interrupted hlt (hd.goesOn value hvalue rest result hrest)
  · exact .interrupted hlt (hd.ends failure hfailure)

theorem accepted {taken : Nat} (hpositive : 0 < taken) (hle : position + taken ≤ chunkEnd payload position)
    (hlt : position < payload.length) (hd : Leads payload (position + taken) stop d) :
    Leads payload position stop ⟨.accepted (offerAt payload position) taken :: d.exchanges, d.result⟩ := by
  refine ⟨fun value hvalue rest result hrest => ?_, fun failure hfailure => ?_⟩
  · exact .accepted hlt hpositive hle (hd.goesOn value hvalue rest result hrest)
  · exact .accepted hlt hpositive hle (hd.ends failure hfailure)

/-- The whole offer is taken at once. -/
theorem acceptAll (hlt : position < payload.length) :
    Leads payload position (chunkEnd payload position)
      (⟨[.accepted (offerAt payload position) (offerAt payload position).length], .ok value⟩ :
        Delivery α) := by
  have hend := lt_chunkEnd hlt
  have hnext : position + (offerAt payload position).length = chunkEnd payload position := by
    rw [length_offerAt]
    omega
  have hrest : Leads payload (position + (offerAt payload position).length) (chunkEnd payload position)
      (⟨[], .ok value⟩ : Delivery α) := by
    rw [hnext]
    exact nil
  exact hrest.accepted (List.length_pos_iff.mpr (offerAt_ne_nil hlt)) (Nat.le_of_eq hnext) hlt

/-- A failure is the end. -/
theorem of_error {exchanges : List (Exchange (List UInt8))} {failure : DeliveryFailure}
    (hstream : Streams payload position exchanges (.error failure)) :
    Leads payload position stop (⟨exchanges, .error failure⟩ : Delivery α) := by
  refine ⟨fun _ h => (by cases h), ?_⟩
  rintro _ ⟨⟩
  exact hstream

end Leads

@[simp] theorem writeAll_nil (script : List WriteAnswer) : writeAll [] script = ⟨[], .ok script⟩ := by
  cases script <;> rfl

theorem drop_take_self (bytes : List UInt8) (n : Nat) : (bytes.take n).drop n = [] :=
  List.drop_eq_nil_of_le (List.length_take_le n bytes)

/-- After a part of an offer was taken, what is left of the chunk is nothing or the next offer. -/
theorem chunk_rest {taken : Nat} (hle : position + taken ≤ chunkEnd payload position) :
    position + taken = chunkEnd payload position ∨
      position + taken < chunkEnd payload position ∧
        chunkEnd payload (position + taken) = chunkEnd payload position := by
  rcases Nat.eq_or_lt_of_le hle with heq | hbefore
  · exact .inl heq
  · exact .inr ⟨hbefore, chunkEnd_of_lt (Nat.le_add_right _ _) hbefore⟩

theorem writeAll_leads (script : List WriteAnswer) (hstop : stop ≤ payload.length)
    (hchunk : position = stop ∨ position < stop ∧ chunkEnd payload position = stop) :
    Leads payload position stop (writeAll ((payload.take stop).drop position) script) := by
  induction script generalizing position with
  | nil =>
    rcases hchunk with rfl | ⟨hlt, rfl⟩
    · rw [drop_take_self, writeAll_nil]
      exact .nil
    · have hposition : position < payload.length := by omega
      rw [← offerAt, writeAll, if_neg (by simpa using offerAt_ne_nil hposition)]
      exact .acceptAll hposition
  | cons answer rest ih =>
    rcases hchunk with rfl | ⟨hlt, rfl⟩
    · rw [drop_take_self, writeAll_nil]
      exact .nil
    have hposition : position < payload.length := by omega
    have hne : ¬ (offerAt payload position).isEmpty := by simpa using offerAt_ne_nil hposition
    rw [← offerAt]
    cases answer with
    | acceptAll =>
      rw [writeAll, if_neg hne]
      exact .acceptAll hposition
    | fail reason =>
      rw [writeAll, if_neg hne]
      exact .of_error (.failed hposition)
    | interrupted =>
      rw [writeAll, if_neg hne]
      exact (ih (.inr ⟨hlt, rfl⟩)).interrupted hposition
    | accept limit =>
      rw [writeAll, if_neg hne]
      dsimp only
      split_ifs with htaken
      · exact .of_error (.refused hposition)
      · generalize hmin : min limit (offerAt payload position).length = taken at htaken
        have hle : position + taken ≤ chunkEnd payload position := by
          rw [length_offerAt] at hmin
          omega
        have hdrop : (offerAt payload position).drop taken =
            (payload.take (chunkEnd payload position)).drop (position + taken) := by
          rw [offerAt, List.drop_drop]
        rw [hdrop]
        exact (ih (chunk_rest hle)).accepted (Nat.pos_of_ne_zero htaken) hle hposition

/-! ### All chunks -/

theorem chunks_eq_nil {size : Nat} {bytes : List UInt8} (hchunks : chunks size bytes = []) : bytes = [] := by
  cases bytes with
  | nil => rfl
  | cons byte rest =>
    rw [chunks] at hchunks
    cases hchunks

theorem chunks_eq_cons {size : Nat} {bytes chunk : List UInt8} {more : List (List UInt8)}
    (hchunks : chunks size bytes = chunk :: more) :
    bytes ≠ [] ∧ chunk = bytes.take (size + 1) ∧ more = chunks size (bytes.drop (size + 1)) := by
  cases bytes with
  | nil =>
    rw [chunks] at hchunks
    cases hchunks
  | cons byte rest =>
    rw [chunks] at hchunks
    obtain ⟨hchunk, hmore⟩ := List.cons.inj hchunks
    exact ⟨List.cons_ne_nil _ _, hchunk.symm, hmore.symm⟩

/-- The chunks from the `k`-th on are a stream from where it begins. -/
theorem writeChunks_streams (pieces : List (List UInt8)) (script : List WriteAnswer) (k : Nat)
    (hpieces : chunks (chunkSize - 1) (payload.drop (k * chunkSize)) = pieces) :
    Streams payload (min (k * chunkSize) payload.length) (writeChunks script pieces).exchanges
      (writeChunks script pieces).result := by
  induction pieces generalizing script k with
  | nil =>
    have hle : payload.length ≤ k * chunkSize := List.drop_eq_nil_iff.mp (chunks_eq_nil hpieces)
    rw [Nat.min_eq_right hle]
    exact .done
  | cons piece rest ih =>
    obtain ⟨hne, hpiece, hrest⟩ := chunks_eq_cons hpieces
    have hlt : k * chunkSize < payload.length := by
      simpa using hne
    have hsize : chunkSize - 1 + 1 = chunkSize := rfl
    have hend : chunkEnd payload (k * chunkSize) = min ((k + 1) * chunkSize) payload.length := by
      rw [chunkEnd, Nat.mul_div_cancel k (by decide)]
    have hoffer : piece = offerAt payload (k * chunkSize) := by
      have hsucc : (k + 1) * chunkSize = k * chunkSize + chunkSize := Nat.succ_mul k chunkSize
      rw [hpiece, hsize, offerAt, hend, hsucc, List.drop_take]
      rcases Nat.le_total (k * chunkSize + chunkSize) payload.length with hle | hle
      · rw [Nat.min_eq_left hle, Nat.add_sub_cancel_left]
      · have hshort : (payload.drop (k * chunkSize)).length ≤ chunkSize := by
          rw [List.length_drop]
          omega
        rw [Nat.min_eq_right hle, List.take_of_length_le hshort, ← List.length_drop, List.take_length]
    have hlead : Leads payload (k * chunkSize) (min ((k + 1) * chunkSize) payload.length)
        (writeAll piece script) := by
      rw [hoffer, offerAt, hend]
      exact writeAll_leads script (Nat.min_le_right _ _) (.inr ⟨hend ▸ lt_chunkEnd hlt, hend⟩)
    have hmore : chunks (chunkSize - 1) (payload.drop ((k + 1) * chunkSize)) = rest := by
      rw [hrest, List.drop_drop, hsize, Nat.succ_mul]
    rw [Nat.min_eq_left (Nat.le_of_lt hlt), writeChunks]
    rcases hresult : (writeAll piece script).result with failure | left
    · exact hlead.ends failure hresult
    · exact hlead.goesOn left hresult _ _ (ih left (k + 1) hmore)

/-! ### Along a stream -/

/-- All bytes that a sink took in some calls. -/
def receivedBy (exchanges : List (Exchange (List UInt8))) : List UInt8 :=
  exchanges.flatMap Exchange.received

variable {exchanges before after : List (Exchange (List UInt8))} {e : Exchange (List UInt8)}
  {result : Except DeliveryFailure Unit}

theorem receivedBy_cons (e : Exchange (List UInt8)) (rest : List (Exchange (List UInt8))) :
    receivedBy (e :: rest) = e.received ++ receivedBy rest :=
  List.flatMap_cons

theorem length_take_offerAt {taken : Nat} (hle : position + taken ≤ chunkEnd payload position) :
    ((offerAt payload position).take taken).length = taken := by
  rw [List.length_take, length_offerAt]
  omega

/-- After some calls the sink holds the payload up to where the calls have come. -/
theorem Streams.received_eq (h : Streams payload position exchanges result)
    (hbefore : before <+: exchanges) :
    payload.take position ++ receivedBy before = payload.take (position + (receivedBy before).length) := by
  induction h generalizing before with
  | done =>
    obtain rfl := List.prefix_nil.mp hbefore
    simp [receivedBy]
  | interrupted hlt hrest ih =>
    rcases List.prefix_cons_iff.mp hbefore with rfl | ⟨earlier, rfl, hearlier⟩
    · simp [receivedBy]
    · rw [receivedBy_cons, Exchange.received, List.nil_append]
      exact ih hearlier
  | accepted hlt hpositive hle hrest ih =>
    rcases List.prefix_cons_iff.mp hbefore with rfl | ⟨earlier, rfl, hearlier⟩
    · simp [receivedBy]
    · rw [receivedBy_cons, Exchange.received, List.length_append, length_take_offerAt hle,
        ← List.append_assoc, take_append_take_offerAt hle, ← Nat.add_assoc]
      exact ih hearlier
  | refused hlt | failed hlt =>
    rcases List.prefix_cons_iff.mp hbefore with rfl | ⟨earlier, rfl, hearlier⟩
    · simp [receivedBy]
    · obtain rfl := List.prefix_nil.mp hearlier
      simp [receivedBy, Exchange.received]

theorem Streams.receivedBy_prefix (h : Streams payload 0 exchanges result) (hbefore : before <+: exchanges) :
    receivedBy before <+: payload := by
  have heq := h.received_eq hbefore
  rw [List.take_zero, List.nil_append] at heq
  exact heq ▸ List.take_prefix _ _

/-- After some calls the rest of a stream is a stream from where the calls have come. -/
theorem Streams.rest (h : Streams payload position exchanges result)
    (hsplit : exchanges = before ++ e :: after) :
    Streams payload (position + (receivedBy before).length) (e :: after) result := by
  induction h generalizing before with
  | done => simp at hsplit
  | interrupted hlt hrest ih =>
    rcases List.cons_eq_append_iff.mp hsplit with ⟨rfl, hrest'⟩ | ⟨earlier, rfl, hrest'⟩
    · rw [hrest']
      exact .interrupted hlt hrest
    · rw [receivedBy_cons, Exchange.received, List.nil_append]
      exact ih hrest'
  | accepted hlt hpositive hle hrest ih =>
    rcases List.cons_eq_append_iff.mp hsplit with ⟨rfl, hrest'⟩ | ⟨earlier, rfl, hrest'⟩
    · rw [hrest']
      exact .accepted hlt hpositive hle hrest
    · rw [receivedBy_cons, Exchange.received, List.length_append, length_take_offerAt hle, ← Nat.add_assoc]
      exact ih hrest'
  | refused hlt =>
    rcases List.cons_eq_append_iff.mp hsplit with ⟨rfl, hrest'⟩ | ⟨earlier, rfl, hrest'⟩
    · rw [hrest']
      exact .refused hlt
    · simp at hrest'
  | failed hlt =>
    rcases List.cons_eq_append_iff.mp hsplit with ⟨rfl, hrest'⟩ | ⟨earlier, rfl, hrest'⟩
    · rw [hrest']
      exact .failed hlt
    · simp at hrest'

/-- Every call of a stream offers the bytes from its position to the end of the chunk there. -/
theorem Streams.offered?_head (h : Streams payload position (e :: after) result) :
    position < payload.length ∧ e.offered? = some (offerAt payload position) := by
  cases h with
  | interrupted hlt | refused hlt | failed hlt => exact ⟨hlt, rfl⟩
  | accepted hlt => exact ⟨hlt, rfl⟩

theorem Streams.offered?_ne_none (h : Streams payload position exchanges result) (hmem : e ∈ exchanges) :
    e.offered? ≠ none := by
  obtain ⟨before, after, hsplit⟩ := List.append_of_mem hmem
  rw [(h.rest hsplit).offered?_head.2]
  exact Option.some_ne_none _

/-- A call that fails is the last one, and its failure is what the stream comes to. -/
theorem Streams.failure?_head (h : Streams payload position (e :: after) result) {failure : DeliveryFailure}
    (hfailure : e.failure? = some failure) : after = [] ∧ result = .error failure := by
  cases h with
  | interrupted hlt => cases hfailure
  | accepted hlt hpositive =>
    obtain ⟨taken, rfl⟩ := Nat.exists_eq_succ_of_ne_zero (Nat.ne_of_gt hpositive)
    cases hfailure
  | refused hlt | failed hlt =>
    obtain rfl := Option.some.inj hfailure
    exact ⟨rfl, rfl⟩

/-- A stream that ends well has come to the end of the payload, and none of its calls failed. -/
theorem Streams.of_ok (h : Streams payload position exchanges (.ok ())) :
    position + (receivedBy exchanges).length = payload.length ∧ ∀ e ∈ exchanges, e.failure? = none := by
  generalize hresult : (Except.ok () : Except DeliveryFailure Unit) = result at h
  induction h with
  | done => simp [receivedBy]
  | interrupted hlt hrest ih =>
    obtain ⟨hlength, hnone⟩ := ih hresult
    exact ⟨hlength, List.forall_mem_cons.mpr ⟨rfl, hnone⟩⟩
  | accepted hlt hpositive hle hrest ih =>
    obtain ⟨hlength, hnone⟩ := ih hresult
    obtain ⟨taken, rfl⟩ := Nat.exists_eq_succ_of_ne_zero (Nat.ne_of_gt hpositive)
    refine ⟨?_, List.forall_mem_cons.mpr ⟨rfl, hnone⟩⟩
    rw [receivedBy_cons, Exchange.received, List.length_append, length_take_offerAt hle, ← Nat.add_assoc]
    exact hlength
  | refused hlt | failed hlt => cases hresult

/-- A stream that stops has a call that failed. -/
theorem Streams.of_error {failure : DeliveryFailure}
    (h : Streams payload position exchanges (.error failure)) :
    ∃ e ∈ exchanges, e.failure? = some failure := by
  generalize hresult : (Except.error failure : Except DeliveryFailure Unit) = result at h
  induction h with
  | done => cases hresult
  | interrupted hlt hrest ih =>
    obtain ⟨e, hmem, hfailure⟩ := ih hresult
    exact ⟨e, List.mem_cons_of_mem _ hmem, hfailure⟩
  | accepted hlt hpositive hle hrest ih =>
    obtain ⟨e, hmem, hfailure⟩ := ih hresult
    exact ⟨e, List.mem_cons_of_mem _ hmem, hfailure⟩
  | refused hlt =>
    obtain rfl := Except.error.inj hresult
    exact ⟨_, List.mem_singleton_self _, rfl⟩
  | failed hlt =>
    obtain rfl := Except.error.inj hresult
    exact ⟨_, List.mem_singleton_self _, rfl⟩

/-! ### Whole deliveries -/

/-- A delivery is a stream of the payload, and a flush if the stream ends well. -/
theorem run_streams (payload : List UInt8) (sink : Sink) :
    (∃ failure, Streams payload 0 (run payload sink).exchanges (.error failure) ∧
      (run payload sink).result = .error failure) ∨
    (∃ writes, Streams payload 0 writes (.ok ()) ∧
      (run payload sink).exchanges = writes ++ [.flushed sink.flushFailure] ∧
      (run payload sink).result =
        match sink.flushFailure with
        | some reason => .error (.sink reason)
        | none => .ok payload.length) := by
  have hstream := @writeChunks_streams payload _ sink.writes 0 rfl
  simp only [Nat.zero_mul, List.drop_zero, Nat.zero_min] at hstream
  rw [run]
  rcases hresult : (writeChunks sink.writes (chunks (chunkSize - 1) payload)).result with failure | ⟨⟩
  · rw [hresult] at hstream
    exact .inl ⟨failure, hstream, rfl⟩
  · rw [hresult] at hstream
    exact .inr ⟨_, hstream, rfl, rfl⟩

/-- At every call a delivery is inside a stream, or it has come to its flush. -/
theorem run_split {sink : Sink} (hsplit : (run payload sink).exchanges = before ++ e :: after) :
    (∃ more result, Streams payload (receivedBy before).length (e :: more) result ∧
      ∀ failure, result = .error failure → after = more ∧ (run payload sink).result = .error failure) ∨
    (e = .flushed sink.flushFailure ∧ after = [] ∧
      ∀ reason, sink.flushFailure = some reason → (run payload sink).result = .error (.sink reason)) := by
  rcases run_streams payload sink with ⟨failure, hstream, hresult⟩ | ⟨writes, hstream, hexchanges, hresult⟩
  · refine .inl ⟨after, .error failure, ?_, ?_⟩
    · simpa using hstream.rest hsplit
    · rintro _ ⟨⟩
      exact ⟨rfl, hresult⟩
  · rw [hexchanges] at hsplit
    rcases List.eq_nil_or_concat after with rfl | ⟨more, last, rfl⟩
    · obtain ⟨rfl, hlast⟩ := List.append_inj' hsplit rfl
      refine .inr ⟨(List.head_eq_of_cons_eq hlast).symm, rfl, fun reason hreason => ?_⟩
      rw [hresult, hreason]
    · rw [List.concat_eq_append, ← List.cons_append, ← List.append_assoc] at hsplit
      obtain ⟨hwrites, -⟩ := List.append_inj' hsplit rfl
      refine .inl ⟨more, .ok (), ?_, fun _ h => by cases h⟩
      simpa using hstream.rest hwrites

theorem receivedBy_prefix {sink : Sink} (hbefore : before <+: (run payload sink).exchanges) :
    receivedBy before <+: payload := by
  rcases run_streams payload sink with ⟨failure, hstream, -⟩ | ⟨writes, hstream, hexchanges, -⟩
  · exact hstream.receivedBy_prefix hbefore
  · rw [hexchanges, List.prefix_concat_iff] at hbefore
    rcases hbefore with rfl | hbefore
    · have hwrites := hstream.receivedBy_prefix List.prefix_rfl
      simpa [receivedBy, Exchange.received] using hwrites
    · exact hstream.receivedBy_prefix hbefore

/-- A delivery has a value if none of its calls failed. -/
theorem run_eq_ok {sink : Sink} (hnone : ∀ e ∈ (run payload sink).exchanges, e.failure? = none) :
    (run payload sink).result = .ok payload.length := by
  rcases run_streams payload sink with ⟨failure, hstream, hresult⟩ | ⟨writes, hstream, hexchanges, hresult⟩
  · obtain ⟨e, hmem, hfailure⟩ := hstream.of_error
    rw [hnone e hmem] at hfailure
    cases hfailure
  · have hflush := hnone (.flushed sink.flushFailure) (by simp [hexchanges])
    rw [Exchange.failure?, Option.map_eq_none_iff] at hflush
    rw [hresult, hflush]

/-- What a delivery with a value has done. -/
theorem run_of_eq_ok {sink : Sink} {count : Nat} (hok : (run payload sink).result = .ok count) :
    count = payload.length ∧ ∃ writes, Streams payload 0 writes (.ok ()) ∧
      (run payload sink).exchanges = writes ++ [.flushed none] := by
  rcases run_streams payload sink with ⟨failure, hstream, hresult⟩ | ⟨writes, hstream, hexchanges, hresult⟩
  · rw [hresult] at hok
    cases hok
  · rw [hresult] at hok
    rcases hflush : sink.flushFailure with - | reason
    · rw [hflush] at hok hexchanges
      exact ⟨(Except.ok.inj hok).symm, writes, hstream, hexchanges⟩
    · rw [hflush] at hok
      cases hok

end Delivery

end Folio
