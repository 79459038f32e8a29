-- Fetching an address: a request, its reply, and the redirects that are followed. Only the
-- last reply counts, and any failure on the way fails the whole.
import IsoServer.Config.Fault
import IsoServer.Proxy.Environment
import IsoServer.Proxy.Exchange
import IsoServer.Proxy.Framing
import IsoServer.Url.Parse

namespace IsoServer.Proxy

/-- What fetching needs to know. -/
structure Client where
  userAgent : Bytes
  maxRedirects : Nat
  routing : Routing := {}

/-- The client of a configuration; none if its user agent cannot be sent. -/
def Client.create? (config : ProxyConfig) (env : Environment) : Option Client :=
  if config.agentIsValue then
    some
      { userAgent := Bytes.ofString config.userAgent
        maxRedirects := config.maxRedirects.toNat
        routing := if config.useEnvProxy then .ofEnvironment env else {} }
  else none

/-- How fetching ended. -/
inductive Fetched where
  | failed
  | replied (status : Nat) (headers : Headers) (body : Received)
  deriving DecidableEq, Repr

/-- One address on the way, and what goes with the request for it. -/
structure Hop where
  url : Url
  authorization : Option Bytes := none
  referer : Option Bytes := none

/-! ## Requests -/

/-- The credentials in an address. They are left out if they are not text. -/
def credentials? (url : Url) : Option Bytes :=
  let decoded := fun s : String => Percent.decode (Bytes.ofString s)
  let user := decoded url.username
  if !Utf8.isValid user then none
  else
    match (url.password.map decoded).filter Utf8.isValid with
    | some password => some (basicCredentials user password)
    | none => if user.isEmpty then none else some (basicCredentials user [])

/-- Whether the scheme of an address is one that can be fetched. -/
def isWeb (url : Url) : Bool := url.scheme == "http" || url.scheme == "https"

/-- Whether the text of an address can be a request target. -/
def isTarget (url : Url) : Bool :=
  match Uri.parse (Bytes.ofString url.text) with
  | .ok _ => true
  | .error _ => false

/-- A header field that may be missing. -/
def optionalField (name : String) (value : Option Bytes) : Headers :=
  value.toList.map fun v => (name, v)

/-- The header fields of a request. -/
def Client.fields (client : Client) (hop : Hop) (gateway : Option Gateway) : Headers :=
  [("accept", Bytes.ofString "*/*"), ("user-agent", client.userAgent),
    ("host", Bytes.ofString hop.url.hostAndPort)] ++
  optionalField "authorization" hop.authorization ++
  optionalField "referer" hop.referer ++
  optionalField "proxy-authorization" (gateway.bind Gateway.authorization)

/-- The port to connect to. -/
def portOf (url : Url) : UInt16 := url.portOrDefault?.getD 80

/-- The request that asks a gateway for a tunnel to the host of an address. -/
def Client.connect (client : Client) (gateway : Gateway) (url : Url) : Outgoing :=
  let target := Bytes.ofString (url.hostText ++ ":" ++ toString (portOf url).toNat)
  { method := .connect
    secure := gateway.secure
    host := Utf8.decodeLossy gateway.host
    port := gateway.port
    target
    headers := [("host", target), ("user-agent", client.userAgent)] ++
      optionalField "proxy-authorization" gateway.authorization }

/-- What is sent for an address; none if it cannot be fetched. Through a gateway, the target of a
plain request is the whole address, and a secure request needs a tunnel. -/
def Client.errand? (client : Client) (hop : Hop) : Option Errand :=
  let url := hop.url
  if !(isWeb url && isTarget url) then none
  else
    let secure := url.scheme == "https"
    let direct : Outgoing :=
      { secure
        host := url.hostText
        port := portOf url
        target := Bytes.ofString url.pathAndQuery
        headers := client.fields hop none }
    match client.routing.gatewayFor? secure (Bytes.ofString url.hostText) with
    | none => some { out := direct }
    | some gateway =>
      if secure then some { tunnel := some (client.connect gateway url), out := direct }
      else
        some
          { out :=
              { secure := gateway.secure
                host := Utf8.decodeLossy gateway.host
                port := gateway.port
                target := Bytes.ofString url.withoutFragment.text
                headers := client.fields hop (some gateway) } }

/-! ## Redirects -/

/-- Whether a status asks to look elsewhere. -/
def isRedirect (status : Nat) : Bool := [301, 302, 303, 307, 308].contains status

/-- Where a reply redirects to. A location that is missing, cannot be read or leads to no request
target is passed over. -/
def redirect? (url : Url) (status : Nat) (headers : Headers) : Option Url :=
  if !isRedirect status then none
  else
    match (headers.get? "location").bind Utf8.decode? with
    | none => none
    | some location =>
      match url.join location with
      | .error _ => none
      | .ok next => if isTarget next then some next else none

/-- The first address on the way. User name and password become credentials. -/
def Hop.start (url : Url) : Hop := { url := url.withoutUser, authorization := credentials? url }

/-- The next address on the way. Credentials stay with the host and the port they were for, and
what was encrypted is not named where it is read in the clear. -/
def Hop.follow (hop : Hop) (next : Url) : Hop :=
  let sameHost := next.host == hop.url.host && next.portOrDefault? == hop.url.portOrDefault?
  let opens := hop.url.scheme == "https" && next.scheme == "http"
  { url := next
    authorization := if sameHost then hop.authorization else none
    referer := if opens then hop.referer else some (Bytes.ofString hop.url.bare.text) }

/-! ## Fetching -/

/-- Whether a status is final and can be told from noise. -/
def isFinal (status : Nat) : Bool := status == 101 || (200 ≤ status && status < 1000)

/-- Whether a status says that the request failed. -/
def isFailure (status : Nat) : Bool := 400 ≤ status && status < 600

/-- Fetches an address and follows redirects, `left` of them at most. `before` are the requests
that were sent already; the requests of this fetch are given back. -/
def Client.fetchFrom (client : Client) (network : Network) (left : Nat) (before : List Outgoing)
    (hop : Hop) : Fetched × List Outgoing :=
  match client.errand? hop with
  | none => (.failed, [])
  | some errand =>
    let (reply, sent) := network.carry before errand
    match reply with
    | .refused | .closed | .garbage | .silent => (.failed, sent)
    | .answer status headers rest =>
      match Extent.ofReply? status headers with
      | none => (.failed, sent)
      | some extent =>
        if !isFinal status then (.failed, sent)
        else
          match redirect? hop.url status headers with
          | some next =>
            match left with
            | 0 => (.failed, sent)
            | left + 1 =>
              let later := client.fetchFrom network left (before ++ sent) (hop.follow next)
              (later.1, sent ++ later.2)
          | none =>
            if isFailure status then (.failed, sent)
            else (.replied status headers (extent.read rest), sent)

/-- Fetches an address. -/
def Client.fetch (client : Client) (network : Network) (before : List Outgoing) (url : Url) :
    Fetched × List Outgoing :=
  client.fetchFrom network client.maxRedirects before (.start url)

end IsoServer.Proxy
