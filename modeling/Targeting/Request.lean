import Targeting.Json.ShapeReader
import Targeting.Text.Ascii

/-!
# Requests

What is known of one request. Every accessor takes an empty text for a missing one.
A request without a cookie table differs from one whose table is empty only in
`cookies.isSome`.
-/

namespace Targeting

structure Request where
  headers : Assoc String
  url : Option String
  cookies : Option (Assoc String)
  /-- Route parameters; the overriding address is one of them. -/
  params : Assoc String
  connectionAddr : Option String
  socketAddr : Option String
  /-- The connection under an encrypted tunnel. -/
  tunnelAddr : Option String
  /-- The browser id, by which requests are put into buckets. -/
  bid : Option String

def filled (text : Option String) : Option String := text.filter (· ≠ "")

theorem filled_filled (text : Option String) : filled (filled text) = filled text := by
  simp [filled, Option.filter_filter]

theorem filled_eq_some {text : Option String} {value : String} :
    filled text = some value ↔ text = some value ∧ value ≠ "" := by
  simp [filled, Option.filter_eq_some_iff]

namespace Request

def empty : Request := ⟨[], none, none, [], none, none, none, none⟩

/-- Names of headers are compared up to ASCII case. -/
def header (r : Request) (name : String) : Option String :=
  filled ((r.headers.find? fun h => Text.sameIgnoringCase h.1 name).map (·.2))

def host (r : Request) : Option String := r.header "host"

def userAgent (r : Request) : Option String := r.header "user-agent"

def path (r : Request) : Option String := filled r.url

def param (r : Request) (name : String) : Option String := filled (r.params.get? name)

def hasCookieTable (r : Request) : Bool := r.cookies.isSome

def cookie (r : Request) (name : String) : Option String :=
  filled (r.cookies.bind (·.get? name))

def remoteAddr (r : Request) : Option String :=
  (filled r.connectionAddr).or ((filled r.socketAddr).or (filled r.tunnelAddr))

-- ---------------------------------------------------------------------------
-- Requests in JSON
-- ---------------------------------------------------------------------------

def layout : Layout :=
  .cons "headers" false (.table .text) <|
  .cons "url" false (.optional .text) <|
  .cons "cookies" false (.optional (.table .text)) <|
  .cons "params" false (.table .text) <|
  .cons "connection_addr" false (.optional .text) <|
  .cons "socket_addr" false (.optional .text) <|
  .cons "tunnel_addr" false (.optional .text) <|
  .cons "bid" false (.optional .text) .nil

def shape : Shape := .record "SplitRequest" layout

def ofContent : shape.Content → Request
  | (headers, url, cookies, params, connection, socket, tunnel, bid, _) =>
    ⟨headers.getD [], url.join, cookies.join, params.getD [], connection.join, socket.join,
      tunnel.join, bid.join⟩

def ofJson (v : Json) : Except Mismatch Request := (shape.decode v).map ofContent

def ofText (text : String) : Except Json.Fault Request := (shape.ofText text).map ofContent

end Request

end Targeting
