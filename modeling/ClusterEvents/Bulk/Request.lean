import ClusterEvents.Settings.Basic
import ClusterEvents.Text.Base64

/-!
# Requests to the search store

Where batches are sent, and what is sent along with them.
-/

namespace ClusterEvents.Bulk

/-- How batches are gathered and sent. -/
structure Options where
  address : String
  username : Option String := none
  password : Option String := none
  flushBytes : Nat := 10000000
  flushInterval : Duration := .ofSeconds 120
  timeout : Duration := .ofSeconds 90
  skipVerify : Bool := false
  channelBuffer : Nat := 1000
deriving DecidableEq, Repr

namespace Options

/-- The options that settings ask for. -/
def ofSettings (s : StoreSettings) (channelBuffer : Nat) : Options where
  address := s.address
  username := s.username
  password := s.password
  flushBytes := s.flushBytes
  flushInterval := s.flushInterval
  timeout := s.timeout
  skipVerify := s.skipVerify
  channelBuffer := channelBuffer

/-- Where batches are sent. -/
def endpoint (o : Options) : String :=
  let address := (o.address.toList.reverse.dropWhile (· == '/')).reverse
  String.ofList address ++ "/_bulk"

/-- The header that says who sends: user and password, if there is a user. -/
def authorization (o : Options) : Option String :=
  o.username.map fun user =>
    "Basic " ++ Text.base64 (Bytes.ofString (user ++ ":" ++ o.password.getD ""))

end Options

/-- A request with a batch. -/
structure Request where
  endpoint : String
  authorization : Option String
  contentType : String := "application/x-ndjson"
  body : Bytes
deriving DecidableEq, Repr

/-- The request that brings a body to the store. -/
def Options.request (o : Options) (body : Bytes) : Request where
  endpoint := o.endpoint
  authorization := o.authorization
  body := body

end ClusterEvents.Bulk
