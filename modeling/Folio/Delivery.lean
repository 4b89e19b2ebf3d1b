/-!
# Delivering bytes to a sink

Rendered bytes are pushed into a sink in chunks of 64 KiB and then flushed. A sink may take only part
of what it is offered, may ask to be called again, or may fail; the rest of a chunk is offered again
until it is taken. A sink that takes nothing of an offer has failed too.

What a sink answers is given by a script, and what it was asked is part of the outcome, so the whole
exchange is a value. Its calls hold the bytes that were offered; a report counts them.
-/

namespace Folio

/-- The answer of a sink to one offer of bytes. -/
inductive WriteAnswer where
  | accept (limit : Nat)
  | acceptAll
  | interrupted
  | fail (reason : String)
deriving DecidableEq, Repr

/-- A sink answers by the script while it lasts and then accepts everything. -/
structure Sink where
  writes : List WriteAnswer := []
  flushFailure : Option String := none
deriving DecidableEq, Repr

/-- Why a delivery stopped. -/
inductive DeliveryFailure where
  | noProgress
  | sink (reason : String)
deriving DecidableEq, Repr

def DeliveryFailure.message : DeliveryFailure → String
  | noProgress => "failed to write whole buffer"
  | sink reason => reason

/-- One call that a sink received, with what it was offered and what came of it. -/
inductive Exchange (Offer : Type) where
  | accepted (offered : Offer) (taken : Nat)
  | interrupted (offered : Offer)
  | failed (offered : Offer) (reason : String)
  | flushed (failure : Option String)
deriving DecidableEq, Repr

/-- A call as it is reported: with the number of bytes offered. -/
abbrev SinkCall := Exchange Nat

namespace Exchange

def map {Offer Offer' : Type} (f : Offer → Offer') : Exchange Offer → Exchange Offer'
  | accepted offered taken => accepted (f offered) taken
  | interrupted offered => interrupted (f offered)
  | failed offered reason => failed (f offered) reason
  | flushed failure => flushed failure

/-- The bytes that the sink took. -/
def received : Exchange (List UInt8) → List UInt8
  | accepted offered taken => offered.take taken
  | interrupted _ | failed .. | flushed _ => []

end Exchange

/-- What an exchange came to: the calls in order, and a value or the failure. -/
structure Delivery (α : Type) where
  exchanges : List (Exchange (List UInt8))
  result : Except DeliveryFailure α

namespace Delivery

def calls {α : Type} (d : Delivery α) : List SinkCall :=
  d.exchanges.map (Exchange.map List.length)

/-- All bytes that the sink took. -/
def received {α : Type} (d : Delivery α) : List UInt8 :=
  d.exchanges.flatMap Exchange.received

def chunkSize : Nat := 64 * 1024

/-- Offers a chunk until all of it is taken; the value is what is left of the script. -/
def writeAll (chunk : List UInt8) : List WriteAnswer → Delivery (List WriteAnswer)
  | [] => if chunk.isEmpty then ⟨[], .ok []⟩ else ⟨[.accepted chunk chunk.length], .ok []⟩
  | answer :: rest =>
    if chunk.isEmpty then ⟨[], .ok (answer :: rest)⟩
    else
      match answer with
      | .interrupted =>
        let tail := writeAll chunk rest
        ⟨.interrupted chunk :: tail.exchanges, tail.result⟩
      | .fail reason => ⟨[.failed chunk reason], .error (.sink reason)⟩
      | .acceptAll => ⟨[.accepted chunk chunk.length], .ok rest⟩
      | .accept limit =>
        let taken := min limit chunk.length
        if taken = 0 then ⟨[.accepted chunk 0], .error .noProgress⟩
        else
          let tail := writeAll (chunk.drop taken) rest
          ⟨.accepted chunk taken :: tail.exchanges, tail.result⟩

/-- Cuts into pieces of `size + 1` bytes; the last may be shorter. -/
def chunks (size : Nat) : List UInt8 → List (List UInt8)
  | [] => []
  | byte :: rest => (byte :: rest.take size) :: chunks size (rest.drop size)
termination_by payload => payload.length
decreasing_by simp only [List.length_drop, List.length_cons]; omega

def writeChunks (script : List WriteAnswer) : List (List UInt8) → Delivery Unit
  | [] => ⟨[], .ok ()⟩
  | chunk :: rest =>
    let head := writeAll chunk script
    match head.result with
    | .error failure => ⟨head.exchanges, .error failure⟩
    | .ok script =>
      let tail := writeChunks script rest
      ⟨head.exchanges ++ tail.exchanges, tail.result⟩

/-- Delivers a payload; the value is its length. -/
def run (payload : List UInt8) (sink : Sink) : Delivery Nat :=
  let written := writeChunks sink.writes (chunks (chunkSize - 1) payload)
  match written.result with
  | .error failure => ⟨written.exchanges, .error failure⟩
  | .ok () =>
    ⟨written.exchanges ++ [.flushed sink.flushFailure],
      match sink.flushFailure with
      | some reason => .error (.sink reason)
      | none => .ok payload.length⟩

end Delivery

end Folio
