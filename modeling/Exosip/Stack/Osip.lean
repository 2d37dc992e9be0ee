import Exosip.Stack.Fifo

/-! The stack: its transactions, and the retransmissions outside of them. -/
namespace Exosip

/-- A retransmission of a 200 or an ACK outside of any transaction. -/
structure Ixt where
  interval : Int
  start : Timeval
  counter : Int
  ack : Option Message
  msg2xx : Option Message
  dest : Option Str
  port : Int
  sock : Int
  deriving DecidableEq, Repr

def ixtInit (now : Instant) : Ixt where
  interval := defaultT1
  start := now.after (defaultT1 + 10)
  counter := 10
  ack := none
  msg2xx := none
  dest := none
  port := 5060
  sock := -1

/-- `ixt_retransmit`, without the sending. -/
def ixtRetransmit (ixt : Ixt) (current : Instant) : Ixt :=
  if Timeval.osipTimercmpGt current.toTimeval ixt.start then
    let interval := if ixt.interval * 2 > defaultT2 then defaultT2 else ixt.interval * 2
    { ixt with
      interval
      start := Timeval.addGettimeofday ixt.start interval
      counter := ixt.counter - 1 }
  else ixt

/-- What `osip_start_200ok_retransmissions`, `osip_start_ack_retransmissions` and the
passes of `osip_retransmissions_execute` build. -/
inductive IxtReached : Ixt → Prop
  | start (now : Instant) (ack msg2xx : Option Message) (dest : Option Str) (port sock : Int) :
      IxtReached { ixtInit now with ack, msg2xx, dest, port, sock }
  | retransmit {ixt : Ixt} (current : Instant) :
      IxtReached ixt → IxtReached (ixtRetransmit ixt current)

/-- The transactions and retransmissions of the stack. -/
structure Osip where
  ictTransactions : List (Transaction Ict)
  istTransactions : List (Transaction Ist)
  nictTransactions : List (Transaction Nict)
  nistTransactions : List (Transaction Nist)
  ixtRetransmissions : List Ixt

def Osip.init : Osip := ⟨[], [], [], [], []⟩

end Exosip
