/-
# Downloads

A network says what comes of a request for each address, once the client has followed the
redirections that it follows; a fetcher downloads through it.  An answer whose status is not a success
is a failure that keeps the status, even if its body cannot be read.  How downloads wait for each
other is told in `Placard.Asset.Slots`.
-/
import Placard.Error
import Placard.Location

namespace Placard

/-- Why an answer, or its body, does not come. -/
inductive Breakdown where
  /-- It has not come in the time allowed. -/
  | late
  | lost
  deriving DecidableEq

/-- The failure of a download that breaks off. -/
def Breakdown.error : Breakdown → FetchError
  | .late => .timeout
  | .lost => .transport

/-- What comes of a request in the end. -/
inductive Reply where
  | answer (status : Nat) (body : Except Breakdown Payload)
  | failure (b : Breakdown)

/-- What comes of the request for each address. -/
abbrev Network := WebAddress → Reply

def Network.none : Network := fun _ => .failure .lost

/-- How downloads are made. -/
structure FetchSettings where
  concurrency : Nat
  timeoutMs : Nat
  userAgent : String
  systemProxy : Bool
  deriving DecidableEq

namespace FetchSettings

/-- The number of downloads that may be under way at once. -/
def slots (s : FetchSettings) : Nat := max s.concurrency 1

/-- The user agent can be sent in a header. -/
def isValid (s : FetchSettings) : Bool :=
  s.userAgent.toList.all fun c => c == '\t' || (0x20 ≤ c.toNat && c.toNat ≠ 0x7F)

end FetchSettings

/-- A client that downloads through a network. -/
structure Fetcher where
  settings : FetchSettings
  network : Network

namespace Fetcher

def ofSettings (settings : FetchSettings) (network : Network) : Except FetchError Fetcher :=
  if settings.isValid then .ok ⟨settings, network⟩ else .error .client

/-- The outcome of an answer, once its body has come or broken off. -/
def conclude (status : Nat) (body : Except Breakdown Payload) : Except FetchError Payload :=
  if 300 ≤ status then .error (.status status (body.toOption.getD (.octets .empty)))
  else body.mapError Breakdown.error

def download (network : Network) (address : WebAddress) : Except FetchError Payload :=
  match network address with
  | .answer status body => conclude status body
  | .failure b => .error b.error

def fetch (f : Fetcher) (uri : String) : Except FetchError Payload :=
  match Location.parse? uri with
  | some (.web address) => download f.network address
  | _ => .error .transport

end Fetcher
end Placard
