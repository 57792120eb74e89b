import AirLoop.Operator.Basic
import AirLoop.Text.Blank
import AirLoop.Text.Lowercase

/-!
# Operators who type lines (`raop_sender::operator`)

A reader turns the bytes of a terminal into signals: one for each line, and one when the input is
over. The signals wait in a queue, where an interrupt can join them, and every question takes the
first of them.
-/

namespace AirLoop

/-- What an operator's terminal tells (`Signal`). -/
inductive OperatorSignal where
  /-- a line, trimmed and in lower case -/
  | line (text : String)
  /-- no more lines are coming -/
  | closed
  | interrupted
  deriving DecidableEq

/-- The line that asks to quit (`QUIT_KEY`). -/
def quitKey : String := "q"

/-- The byte that ends a line. -/
def lineEnd : UInt8 := 0x0a

/-- The byte that may stand before the end of a line. -/
def carriageReturn : UInt8 := 0x0d

/-- A line as the operator meant it. -/
def normalizeLine (s : String) : String := String.ofList (Text.lower (Text.trim s.toList))

/-- The signal of a line's bytes, if they are UTF-8. -/
def lineSignal? (bytes : List UInt8) : Option OperatorSignal :=
  (String.fromUTF8? ⟨bytes.toArray⟩).map fun s => .line (normalizeLine s)

/-- A line's bytes without a carriage return at their end. -/
def stripReturn (bytes : List UInt8) : List UInt8 :=
  if bytes.getLast? = some carriageReturn then bytes.dropLast else bytes

/-! ## The reader and its queue -/

/-- What comes in at a terminal. -/
inductive Arrival where
  | bytes (bs : List UInt8)
  | endOfInput
  | interrupt
  deriving DecidableEq

/-- An operator at a terminal (`LineOperator`). -/
structure LineOperator where
  /-- signals that wait -/
  signals : List OperatorSignal := []
  /-- bytes of a line that is not complete -/
  pending : List UInt8 := []
  /-- the reader wants more input -/
  reading : Bool := true
  /-- somebody listens to the reader -/
  listening : Bool := true
  /-- what is still to come, in batches: each before one more question is answered -/
  arrivals : List (List Arrival) := []
  deriving DecidableEq

namespace LineOperator

/-- The reader queues a signal; it ends when nobody listens, and after the last signal. -/
def queue (o : LineOperator) (s : OperatorSignal) (last : Bool) : LineOperator :=
  if o.listening then { o with signals := o.signals ++ [s], reading := o.reading && !last }
  else { o with reading := false }

/-- The reader has the bytes of a line (the reader of `LineOperator::spawn`). One that is not UTF-8
ends the input. -/
def takeLine (o : LineOperator) (bytes : List UInt8) : LineOperator :=
  match lineSignal? bytes with
  | some s => o.queue s false
  | none => o.queue .closed true

/-- One more byte of input. -/
def feedByte (o : LineOperator) (b : UInt8) : LineOperator :=
  if !o.reading then o
  else if b = lineEnd then { o with pending := [] }.takeLine (stripReturn o.pending)
  else { o with pending := o.pending ++ [b] }

/-- More bytes of input. -/
def feed (o : LineOperator) (bs : List UInt8) : LineOperator := bs.foldl feedByte o

/-- A reader that has ended takes no more input. -/
theorem feed_of_not_reading (o : LineOperator) (h : o.reading = false) (bs : List UInt8) :
    o.feed bs = o := by
  induction bs with
  | nil => rfl
  | cons b bs ih =>
    have hb : o.feedByte b = o := by simp [feedByte, h]
    simpa [feed, hb] using ih

/-- The input is over. A line without its end is queued first. -/
def close (o : LineOperator) : LineOperator :=
  if !o.reading then o
  else
    let o := if o.pending = [] then o else { o with pending := [] }.takeLine o.pending
    if o.reading then o.queue .closed true else o

/-- Reading fails. A line without its end is lost. -/
def failReading (o : LineOperator) : LineOperator :=
  if !o.reading then o else { o with pending := [] }.queue .closed true

/-- An interrupt joins the queue (`Interrupter::interrupt`). -/
def interrupt (o : LineOperator) : LineOperator :=
  if o.listening then { o with signals := o.signals ++ [.interrupted] } else o

/-- Nobody listens any more. -/
def leave (o : LineOperator) : LineOperator := { o with listening := false, signals := [] }

/-- Something comes in. -/
def arrive (o : LineOperator) : Arrival → LineOperator
  | .bytes bs => o.feed bs
  | .endOfInput => o.close
  | .interrupt => o.interrupt

/-- Some things come in, in order. -/
def arriveAll (o : LineOperator) (batch : List Arrival) : LineOperator := batch.foldl arrive o

theorem arriveAll_append (o : LineOperator) (xs ys : List Arrival) :
    o.arriveAll (xs ++ ys) = (o.arriveAll xs).arriveAll ys :=
  List.foldl_append ..

/-- An operator at a terminal where this has come in, and that is still to come. -/
def ofArrivals (before : List Arrival) (later : List (List Arrival)) : LineOperator :=
  { ({} : LineOperator).arriveAll before with arrivals := later }

/-- An operator who types this and then ends the input. -/
def ofBytes (bs : List UInt8) : LineOperator := ofArrivals [.bytes bs, .endOfInput] []

/-! ## Questions -/

/-- The first signal that waits, if there is one, and the operator without it. -/
def take (o : LineOperator) : Option OperatorSignal × LineOperator :=
  (o.signals.head?, { o with signals := o.signals.tail })

/-- The next batch comes in. -/
def attend (o : LineOperator) : LineOperator :=
  match o.arrivals with
  | [] => o
  | batch :: later => { o with arrivals := later }.arriveAll batch

/-- Batches come in until a signal waits, as long as there are any. -/
def await (o : LineOperator) : List (List Arrival) → LineOperator
  | [] => { o with arrivals := [] }
  | batch :: later =>
    let o := { o with arrivals := later }.arriveAll batch
    if o.signals = [] then o.await later else o

/-- Any line but the quit key means to go on (`LineOperator::acknowledge`). -/
def acknowledge (o : LineOperator) : Consulted LineOperator Acknowledgement :=
  match (o.await o.arrivals).take with
  | (some (.line text), o) =>
    { answer := if text = quitKey then .abort else .proceed, operator := o }
  | (_, o) => { answer := .abort, operator := o }

/-- A question takes the first signal: the quit key, an interrupt and the end of the input mean to
quit (`LineOperator::quit_requested`). Without a signal the wait is over when its time is. -/
def quitRequested (_wait : Duration) (o : LineOperator) : Consulted LineOperator Bool :=
  match o.attend.take with
  | (none, o) => { answer := false, operator := o }
  | (some (.line text), o) => { answer := decide (text = quitKey), operator := o }
  | (some .closed, o) =>
    { answer := true, log := [⟨.info, "Operator input closed, stopping"⟩], operator := o }
  | (some .interrupted, o) =>
    { answer := true, log := [⟨.info, "Interrupted, stopping"⟩], operator := o }

/-- All signals that wait or are still to come. -/
def coming (o : LineOperator) : List OperatorSignal := (o.arriveAll o.arrivals.flatten).signals

/-- Polls after which all of them have been taken. -/
def patience (o : LineOperator) : Nat := o.arrivals.length + o.coming.length

end LineOperator

instance : Operator LineOperator where
  acknowledge := LineOperator.acknowledge
  quitRequested := LineOperator.quitRequested

end AirLoop
