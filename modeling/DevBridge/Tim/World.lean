import DevBridge.Tim.Reports
import DevBridge.Tim.Session
import DevBridge.Source.Executor

/-!
# What the card calls share

The calls of the card executor share the journal, the terminals and some memory: who holds
the session of a terminal, which payment is held by which call, the channels of the settle
requests and the replies to them.  A crash wipes the memory out.

Of the terminals only what passed between them and the bridge is kept: the calls that were
sent and the answers that came.
-/

namespace DevBridge

/-- The local time of a moment. -/
structure LocalTime where
  /-- `YYYY-MM-DD`. -/
  date : String
  minuteOfDay : ℕ
  /-- How long the day still lasts (milliseconds). -/
  untilMidnight : ℕ
deriving DecidableEq, Repr

/-- The settings, and the code from elsewhere: the time zone, the printing of values and the
reading of a double's text. -/
structure TimConfig where
  /-- One terminal is one till, in the order of the addresses. -/
  terminals : List Tim.TerminalSpec
  libraryLoaded : Bool
  hasPrinter : Bool
  /-- Rollback this long after an authorisation without a decision. -/
  deadline : ℕ
  localTime : Time → LocalTime
  jsonText : Json → String
  floatText : ℚ → String
  readFloat : Number → Number
  nodup : (terminals.map Tim.TerminalSpec.ip).Nodup

namespace Tim

/-- The terminal of a till. -/
def specOf (cfg : TimConfig) (kasaId : ℤ) : Option TerminalSpec :=
  cfg.terminals.find? fun s => s.kasaId == kasaId

/-- The terminal of a job's till. -/
def jobSpec (cfg : TimConfig) (job : DeviceJob) : Option TerminalSpec :=
  job.kasaId.bind (specOf cfg)

/-! ### The terminals -/

/-- What passed between the bridge and a terminal. -/
inductive TerminalEvent where
  /-- A call was sent, in the session of a job (`none`: of the safety balance), perhaps to
  serve a settle job. -/
  | sent (ip : String) (jobId : Option ℤ) (call : TerminalCall) (settles : Option DeviceJob)
  | answered (ip : String) (jobId : Option ℤ) (call : TerminalCall) (answer : CallAnswer)
deriving DecidableEq

/-- Every terminal of the bridge: what passed, newest first. -/
structure Terminals where
  log : List TerminalEvent
deriving DecidableEq

/-! ### The memory -/

/-- A settle request in a channel; the job that sent it is known to the log only. -/
structure Queued where
  request : SettleRequest
  job : DeviceJob
deriving DecidableEq

/-- The memory of the card executor. -/
structure TimVol where
  /-- The monotone clock, in milliseconds. -/
  instant : ℕ
  /-- The call whose session a terminal runs. -/
  sessions : String → Option ℕ
  /-- The payment that is held, by its job: the call that holds it. -/
  holders : ℤ → Option ℕ
  /-- The settle channel of a call, oldest request first; `none`: nobody receives. -/
  channels : ℕ → Option (List Queued)
  /-- What a settle call was answered; `some none`: the request was dropped. -/
  replies : ℕ → Option (Option SettleReply)

def TimVol.init : TimVol := ⟨0, fun _ => none, fun _ => none, fun _ => none, fun _ => none⟩

/-- What a card call sees and changes. -/
abbrev TimState := ExecState Terminals TimVol

namespace TimState

variable (s : TimState)

def elapse (ms : ℕ) : TimState := { s with vol := { s.vol with instant := s.vol.instant + ms } }

/-- A call of a terminal is sent. -/
def send (ip : String) (jobId : Option ℤ) (call : TerminalCall) (settles : Option DeviceJob) :
    TimState :=
  { s with dev := ⟨.sent ip jobId call settles :: s.dev.log⟩ }

/-- A call of a terminal returns. -/
def heard (ip : String) (jobId : Option ℤ) (call : TerminalCall) (answer : CallAnswer) :
    TimState :=
  { s with dev := ⟨.answered ip jobId call answer :: s.dev.log⟩ }

/-- The session lock of a terminal is taken by a call, or given back. -/
def lock (ip : String) (holder : Option ℕ) : TimState :=
  { s with vol := { s.vol with sessions := Function.update s.vol.sessions ip holder } }

def withHolder (jobId : ℤ) (holder : Option ℕ) : TimState :=
  { s with vol := { s.vol with holders := Function.update s.vol.holders jobId holder } }

def withChannel (i : ℕ) (channel : Option (List Queued)) : TimState :=
  { s with vol := { s.vol with channels := Function.update s.vol.channels i channel } }

def withReply (waiter : ℕ) (reply : Option SettleReply) : TimState :=
  { s with vol := { s.vol with replies := Function.update s.vol.replies waiter (some reply) } }

def withJournal (j : Journal) : TimState := { s with journal := j }

/-- The receiver of a channel is dropped: the requests in it are never answered. -/
def closeChannel (i : ℕ) : TimState :=
  ((s.vol.channels i).getD []).foldl (fun s q => s.withReply q.request.waiter none)
    (s.withChannel i none)

end TimState

/-- Whether a number fits 64 bits with a sign. -/
def fitsI64 (n : ℤ) : Bool := decide (-2 ^ 63 ≤ n ∧ n < 2 ^ 63)

/-- The numbers of a transaction response fit their types. -/
def TxFacts.fits (f : TxFacts) : Bool := f.transSeq.all fitsI64 && f.amountMinor.all fitsI64

/-- The numbers of an answer fit their types. -/
def CallAnswer.fits : CallAnswer → Bool
  | facts f => f.fits
  | last l => l.facts.all TxFacts.fits
  | _ => true

/-- What happens to a card call. -/
inductive TimEvent where
  /-- It goes on by itself. -/
  | go
  | elapse (ms : ℕ)
  /-- The journal fails. -/
  | fails (error : String)
  /-- A call of the terminal returns. -/
  | answer (a : CallAnswer)
  /-- No settle request came in time. -/
  | timedOut
  /-- The receipt printer answers. -/
  | printed (r : Except String Unit)
  /-- A reconcile looks at the clock; `started`: the moment the executor was started. -/
  | asks (started : Time)
deriving DecidableEq

def TimEvent.fits : TimEvent → Bool
  | answer a => a.fits
  | _ => true

end Tim

end DevBridge
